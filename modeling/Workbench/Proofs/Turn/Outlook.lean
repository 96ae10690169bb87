import Mathlib.Data.List.Sort
import Mathlib.Data.List.TakeWhile
import Workbench.Proofs.Turn.Line

/-!
# The outlook of a board

What is to come, and when: the activities in line go on at the present moment, and after them come
the alarms, by the time they are due; those that have gone off in the present turn are due now. Time
moves only when nothing is to be done, so nothing is ever overdue.
-/
namespace Workbench.Turn

/-! ## Things with the time they are due -/

section Dated

variable {α β : Type}

/-- Put something behind all that is due no later. -/
def insertDue (x : Nat × α) (xs : List (Nat × α)) : List (Nat × α) :=
  xs.orderedInsert (fun x y => x.1 < y.1) x

/-- What is due earlier stands in front. -/
abbrev IsByTime (xs : List (Nat × α)) : Prop := xs.Pairwise fun x y => x.1 ≤ y.1

/-- Keep what a function has a name for, under that name. -/
def relabel (f : α → Option β) (xs : List (Nat × α)) : List (Nat × β) :=
  xs.filterMap fun x => (f x.2).map (x.1, ·)

@[simp]
theorem insertDue_nil (x : Nat × α) : insertDue x [] = [x] := rfl

theorem insertDue_cons (x y : Nat × α) (ys : List (Nat × α)) :
    insertDue x (y :: ys) = if x.1 < y.1 then x :: y :: ys else y :: insertDue x ys :=
  List.orderedInsert_cons ..

@[simp]
theorem mem_insertDue {x y : Nat × α} {xs : List (Nat × α)} :
    y ∈ insertDue x xs ↔ y = x ∨ y ∈ xs := List.mem_orderedInsert ..

theorem insertDue_append {x : Nat × α} {xs : List (Nat × α)} (h : ∀ y ∈ xs, y.1 ≤ x.1)
    (ys : List (Nat × α)) : insertDue x (xs ++ ys) = xs ++ insertDue x ys := by
  induction xs with
  | nil => rfl
  | cons y xs ih =>
    obtain ⟨hy, hxs⟩ := List.forall_mem_cons.mp h
    rw [List.cons_append, insertDue_cons, if_neg (Nat.not_lt.mpr hy), ih hxs, List.cons_append]

theorem insertDue_eq_cons {x : Nat × α} {xs : List (Nat × α)} (h : ∀ y ∈ xs, x.1 < y.1) :
    insertDue x xs = x :: xs := by
  cases xs with
  | nil => rfl
  | cons y ys => rw [insertDue_cons, if_pos (h y List.mem_cons_self)]

/-- What is put in stands behind all that is due no later, and before the rest. -/
theorem exists_insertDue {xs : List (Nat × α)} (h : IsByTime xs) (x : Nat × α) :
    ∃ before after, xs = before ++ after ∧ insertDue x xs = before ++ x :: after ∧
      ∀ y ∈ after, x.1 < y.1 := by
  induction xs with
  | nil => exact ⟨[], [], rfl, rfl, by simp⟩
  | cons y ys ih =>
    obtain ⟨hy, hys⟩ := List.pairwise_cons.mp h
    rw [insertDue_cons]
    split
    case isTrue hlt =>
      refine ⟨[], y :: ys, rfl, rfl, fun z hz => ?_⟩
      obtain rfl | hz := List.mem_cons.mp hz
      · exact hlt
      · exact Nat.lt_of_lt_of_le hlt (hy z hz)
    case isFalse =>
      obtain ⟨before, after, rfl, hinsert, hafter⟩ := ih hys
      exact ⟨y :: before, after, rfl, by rw [hinsert]; rfl, hafter⟩

theorem isByTime_insertDue {xs : List (Nat × α)} (h : IsByTime xs) (x : Nat × α) :
    IsByTime (insertDue x xs) := by
  induction xs with
  | nil => exact List.pairwise_singleton _ x
  | cons y ys ih =>
    obtain ⟨hy, hys⟩ := List.pairwise_cons.mp h
    rw [insertDue_cons]
    split
    case isTrue hlt =>
      refine List.pairwise_cons.mpr ⟨fun z hz => ?_, h⟩
      obtain rfl | hz := List.mem_cons.mp hz
      · exact Nat.le_of_lt hlt
      · exact Nat.le_trans (Nat.le_of_lt hlt) (hy z hz)
    case isFalse hle =>
      refine List.pairwise_cons.mpr ⟨fun z hz => ?_, ih hys⟩
      obtain rfl | hz := mem_insertDue.mp hz
      · exact Nat.not_lt.mp hle
      · exact hy z hz

@[simp]
theorem relabel_nil (f : α → Option β) : relabel f [] = [] := rfl

@[simp]
theorem relabel_append (f : α → Option β) (xs ys : List (Nat × α)) :
    relabel f (xs ++ ys) = relabel f xs ++ relabel f ys := List.filterMap_append

theorem relabel_cons (f : α → Option β) (x : Nat × α) (xs : List (Nat × α)) :
    relabel f (x :: xs) = ((f x.2).map (x.1, ·)).toList ++ relabel f xs := by
  unfold relabel
  rw [List.filterMap_cons]
  cases f x.2 <;> rfl

theorem relabel_congr {f g : α → Option β} {xs : List (Nat × α)} (h : ∀ x ∈ xs, f x.2 = g x.2) :
    relabel f xs = relabel g xs :=
  List.filterMap_congr fun x hx => by rw [h x hx]

theorem mem_relabel {f : α → Option β} {xs : List (Nat × α)} {y : Nat × β} :
    y ∈ relabel f xs ↔ ∃ a, (y.1, a) ∈ xs ∧ f a = some y.2 := by
  obtain ⟨t, b⟩ := y
  simp only [relabel, List.mem_filterMap, Option.map_eq_some_iff, Prod.exists, Prod.mk.injEq]
  constructor
  · rintro ⟨u, a, hmem, c, hc, rfl, rfl⟩
    exact ⟨a, hmem, hc⟩
  · rintro ⟨a, hmem, hb⟩
    exact ⟨t, a, hmem, b, hb, rfl, rfl⟩

/-- What stands by time is relabelled before or after something is put in. -/
theorem relabel_insertDue {xs : List (Nat × α)} (h : IsByTime xs) (f : α → Option β)
    (x : Nat × α) :
    relabel f (insertDue x xs) =
      match f x.2 with
      | some b => insertDue (x.1, b) (relabel f xs)
      | none => relabel f xs := by
  induction xs with
  | nil =>
    rw [insertDue_nil, relabel_cons]
    cases f x.2 <;> rfl
  | cons y ys ih =>
    obtain ⟨hy, hys⟩ := List.pairwise_cons.mp h
    rw [insertDue_cons]
    split
    case isTrue hlt =>
      -- all that is left is due later, under its new name as well
      have hlater : ∀ z ∈ relabel f (y :: ys), x.1 < z.1 := by
        intro z hz
        obtain ⟨a, hmem, -⟩ := mem_relabel.mp hz
        obtain heq | hmem := List.mem_cons.mp hmem
        · rwa [← heq] at hlt
        · exact Nat.lt_of_lt_of_le hlt (hy _ hmem)
      rw [relabel_cons f x]
      cases hx : f x.2 with
      | none => rfl
      | some b => exact (insertDue_eq_cons hlater).symm
    case isFalse hle =>
      rw [relabel_cons, relabel_cons, ih hys]
      cases hx : f x.2 with
      | none => rfl
      | some b =>
        refine (insertDue_append (fun z hz => ?_) _).symm
        obtain ⟨_, _, rfl⟩ := Option.map_eq_some_iff.mp (Option.mem_toList.mp hz)
        exact Nat.not_lt.mp hle

end Dated

/-! ## Alarms -/

/-- Is it a job that an alarm is armed for? -/
def Job.isAlarm {K : Type} : Job K → Bool
  | .wake _ | .fire _ => true
  | _ => false

theorem Job.run?_of_isAlarm {K : Type} {j : Job K} (h : j.isAlarm = true) : j.run? = none := by
  cases j <;> first | rfl | cases h

namespace Agenda

variable {K : Type} {a b : Agenda (Job K)}

/-- The alarms with the time they are due, those first that have gone off in this turn. -/
def later (a : Agenda (Job K)) : List (Nat × Job K) :=
  (a.turn.filter Job.isAlarm).map (a.now, ·) ++ a.alarms.map fun x => (x.due, x.job)

/-- Only alarms are armed, and they are in order. -/
structure IsSorted (a : Agenda (Job K)) : Prop where
  alarms : ∀ x ∈ a.alarms, x.job.isAlarm = true
  sorted : a.alarms.Pairwise (·.due ≤ ·.due)

/-- Only alarms are armed; they are in order, and none is overdue or queued. -/
structure IsTidy (a : Agenda (Job K)) : Prop where
  alarms : ∀ x ∈ a.alarms, x.job.isAlarm = true
  sorted : a.alarms.Pairwise (·.due ≤ ·.due)
  ahead : ∀ x ∈ a.alarms, a.now ≤ x.due
  queued : ∀ j ∈ a.queued, j.isAlarm = false

theorem IsTidy.isSorted (h : a.IsTidy) : a.IsSorted := ⟨h.alarms, h.sorted⟩

theorem IsSorted.sublist (h : a.IsSorted) (hb : b.alarms.Sublist a.alarms) : b.IsSorted :=
  ⟨fun x hx => h.alarms x (hb.subset hx), h.sorted.sublist hb⟩

/-- Before the time of all alarms none of them is overdue. -/
theorem IsSorted.isTidy (h : a.IsSorted) : IsTidy { a with now := 0, queued := [] } :=
  ⟨h.alarms, h.sorted, fun _ _ => Nat.zero_le _, by simp⟩

theorem IsTidy.quiet (h : a.IsTidy) : a.HasQuietAlarms :=
  fun x hx => Job.run?_of_isAlarm (h.alarms x hx)

theorem IsTidy.now_le (h : a.IsTidy) {x : Nat × Job K} (hx : x ∈ a.later) : a.now ≤ x.1 := by
  obtain hx | hx := List.mem_append.mp hx
  · obtain ⟨j, -, rfl⟩ := List.mem_map.mp hx
    exact Nat.le_refl _
  · obtain ⟨y, hy, rfl⟩ := List.mem_map.mp hx
    exact h.ahead y hy

theorem IsTidy.isByTime (h : a.IsTidy) : IsByTime a.later := by
  refine List.pairwise_append.mpr ⟨?_, ?_, ?_⟩
  · rw [List.pairwise_map]
    exact List.pairwise_of_forall_mem_list fun _ _ _ _ => Nat.le_refl _
  · rw [List.pairwise_map]
    exact h.sorted
  · intro x hx y hy
    obtain ⟨j, -, rfl⟩ := List.mem_map.mp hx
    exact h.now_le (List.mem_append_right _ hy)

theorem isTidy_queue (h : a.IsTidy) {j : Job K} (hj : j.isAlarm = false) : (a.queue j).IsTidy := by
  refine ⟨h.alarms, h.sorted, h.ahead, fun i hi => ?_⟩
  obtain hi | hi := List.mem_append.mp hi
  · exact h.queued i hi
  · rwa [List.mem_singleton.mp hi]

theorem map_insertAlarm (x : Alarm (Job K)) (xs : List (Alarm (Job K))) :
    (insertAlarm x xs).map (fun y => (y.due, y.job)) =
      insertDue (x.due, x.job) (xs.map fun y => (y.due, y.job)) := by
  induction xs with
  | nil => rfl
  | cons y ys ih =>
    rw [insertAlarm, List.map_cons, insertDue_cons]
    split
    case isTrue hle => rw [if_neg (Nat.not_lt.mpr hle), List.map_cons, ih]
    case isFalse hlt => rw [if_pos (Nat.not_le.mp hlt), List.map_cons, List.map_cons]

@[simp]
theorem later_arm (a : Agenda (Job K)) (delay : Nat) (j : Job K) :
    (a.arm delay j).later = insertDue (a.now + delay, j) a.later := by
  refine Eq.trans ?_ (insertDue_append (fun y hy => ?_) _).symm
  · exact congrArg (_ ++ ·) (map_insertAlarm _ _)
  · obtain ⟨i, -, rfl⟩ := List.mem_map.mp hy
    exact Nat.le_add_right _ _

theorem isTidy_arm (h : a.IsTidy) (delay : Nat) {j : Job K} (hj : j.isAlarm = true) :
    (a.arm delay j).IsTidy := by
  have hmem {x : Alarm (Job K)} (hx : x ∈ (a.arm delay j).alarms) :
      x = ⟨a.now + delay, j⟩ ∨ x ∈ a.alarms :=
    List.mem_cons.mp ((insertAlarm_perm _ _).mem_iff.mp hx)
  refine ⟨fun x hx => ?_, ?_, fun x hx => ?_, h.queued⟩
  · obtain rfl | hx := hmem hx
    · exact hj
    · exact h.alarms x hx
  · have hdue : IsByTime (a.alarms.map fun y => (y.due, y.job)) := by
      rw [IsByTime, List.pairwise_map]
      exact h.sorted
    have hsorted := isByTime_insertDue hdue (a.now + delay, j)
    rwa [← map_insertAlarm ⟨a.now + delay, j⟩, IsByTime, List.pairwise_map] at hsorted
  · obtain rfl | hx := hmem hx
    · exact Nat.le_add_right _ _
    · exact h.ahead x hx

@[simp]
theorem later_disarm [DecidableEq K] (a : Agenda (Job K)) (j : Job K) :
    (a.disarm j).later = a.later.filter (·.2 ≠ j) := by
  simp [later, disarm, List.filter_map, List.filter_filter, Function.comp_def, Bool.and_comm]

theorem isTidy_disarm [DecidableEq K] (h : a.IsTidy) (j : Job K) : (a.disarm j).IsTidy := by
  refine ⟨fun x hx => ?_, h.sorted.sublist List.filter_sublist, fun x hx => ?_, fun i hi => ?_⟩
  · exact h.alarms x (List.mem_filter.mp hx).1
  · exact h.ahead x (List.mem_filter.mp hx).1
  · exact h.queued i (List.mem_filter.mp hi).1

/-- An alarm that is taken up was the first, and was due. -/
theorem later_of_next? (h : a.IsTidy) {j : Job K} (hnext : a.next? = some (j, b)) :
    a.later = (if j.isAlarm then [(a.now, j)] else []) ++ b.later ∧ b.IsTidy ∧ b.now = a.now := by
  -- once a turn has begun, its first job is taken up
  have htake {js rest : List (Job K)} {alarms : List (Alarm (Job K))} (hjs : js = j :: rest) :
      (js.filter Job.isAlarm).map (a.now, ·) ++ alarms.map (fun x => (x.due, x.job)) =
        (if j.isAlarm then [(a.now, j)] else []) ++
          ((rest.filter Job.isAlarm).map (a.now, ·) ++ alarms.map fun x => (x.due, x.job)) := by
    rw [hjs, List.filter_cons]
    split <;> simp
  unfold next? at hnext
  cases hturn : a.turn with
  | cons i rest =>
    simp only [hturn, Option.some.injEq, Prod.mk.injEq] at hnext
    obtain ⟨rfl, rfl⟩ := hnext
    exact ⟨htake hturn, ⟨h.alarms, h.sorted, h.ahead, h.queued⟩, rfl⟩
  | nil =>
    cases hfirst : a.nextTurn with
    | nil => simp [hturn, hfirst] at hnext
    | cons i rest =>
      simp only [hturn, hfirst, Option.some.injEq, Prod.mk.injEq] at hnext
      obtain ⟨rfl, rfl⟩ := hnext
      refine ⟨?_, ⟨fun x hx => ?_, ?_, fun x hx => ?_, by simp⟩, rfl⟩
      · -- a new turn begins: what goes off with it is due right now
        have hqueued : a.queued.filter Job.isAlarm = [] :=
          List.filter_eq_nil_iff.mpr fun j hj => by simp [h.queued j hj]
        have hgone : ((a.nextTurn.filter Job.isAlarm).map (a.now, ·)) =
            (a.alarms.takeWhile a.isDue).map fun x => (x.due, x.job) := by
          rw [nextTurn, List.filter_append, hqueued, List.nil_append, List.filter_eq_self.mpr]
          · rw [List.map_map]
            refine List.map_congr_left fun x hx => ?_
            have hdue : x.due ≤ a.now := by simpa [isDue] using List.mem_takeWhile_imp hx
            have hahead := h.ahead x ((List.takeWhile_sublist _).subset hx)
            rw [Function.comp_apply, Nat.le_antisymm hahead hdue]
          · intro j hj
            obtain ⟨x, hx, rfl⟩ := List.mem_map.mp hj
            exact h.alarms x ((List.takeWhile_sublist _).subset hx)
        have hlater : a.later = (a.nextTurn.filter Job.isAlarm).map (a.now, ·) ++
            (a.alarms.dropWhile a.isDue).map fun x => (x.due, x.job) := by
          rw [later, hturn, hgone, ← List.map_append, List.takeWhile_append_dropWhile]
          rfl
        rw [hlater]
        exact htake hfirst
      · exact h.alarms x ((List.dropWhile_sublist _).subset hx)
      · exact h.sorted.sublist (List.dropWhile_sublist _)
      · exact h.ahead x ((List.dropWhile_sublist _).subset hx)

/-- The first alarm is due no later than the others. -/
theorem IsSorted.head_le (h : a.IsSorted) {x : Alarm (Job K)} {xs : List (Alarm (Job K))}
    (halarms : a.alarms = x :: xs) : ∀ y ∈ a.alarms, x.due ≤ y.due := by
  have hsorted := h.sorted
  rw [halarms] at hsorted ⊢
  intro y hy
  obtain rfl | hy := List.mem_cons.mp hy
  · exact Nat.le_refl _
  · exact (List.pairwise_cons.mp hsorted).1 y hy

/-- When nothing is to be done, nothing waits but alarms for a later time. -/
theorem IsSorted.of_rest (h : a.IsSorted) (hnone : a.next? = none) :
    a.turn = [] ∧ a.queued = [] ∧ ∀ x ∈ a.alarms, a.now < x.due := by
  unfold next? at hnone
  cases hturn : a.turn with
  | cons i rest => simp [hturn] at hnone
  | nil =>
    cases hfirst : a.nextTurn with
    | cons i rest => simp [hturn, hfirst] at hnone
    | nil =>
      obtain ⟨hqueued, hdue⟩ := List.append_eq_nil_iff.mp hfirst
      refine ⟨rfl, hqueued, fun x hx => ?_⟩
      cases halarms : a.alarms with
      | nil => simp [halarms] at hx
      | cons y ys =>
        have hy : a.now < y.due := by
          rw [halarms] at hdue
          simpa [isDue, List.takeWhile_cons] using hdue
        exact Nat.lt_of_lt_of_le hy (h.head_le halarms x hx)

theorem of_next?_eq_none (h : a.IsTidy) (hnone : a.next? = none) :
    a.turn = [] ∧ a.queued = [] ∧ ∀ x ∈ a.later, a.now < x.1 := by
  obtain ⟨hturn, hqueued, hahead⟩ := h.isSorted.of_rest hnone
  refine ⟨hturn, hqueued, fun x hx => ?_⟩
  rw [later, hturn, List.filter_nil, List.map_nil, List.nil_append] at hx
  obtain ⟨y, hy, rfl⟩ := List.mem_map.mp hx
  exact hahead y hy

/-- No alarm is due before the next one. -/
theorem nextDue?_le (h : a.IsTidy) (hturn : a.turn = []) {x : Nat × Job K} (hx : x ∈ a.later) :
    ∃ due, a.nextDue? = some due ∧ due ≤ x.1 := by
  rw [later, hturn, List.filter_nil, List.map_nil, List.nil_append] at hx
  obtain ⟨y, hy, rfl⟩ := List.mem_map.mp hx
  cases halarms : a.alarms with
  | nil => simp [halarms] at hy
  | cons z zs => exact ⟨z.due, by simp [nextDue?, halarms], h.isSorted.head_le halarms y hy⟩

theorem le_of_nextDue? (h : a.IsTidy) {due : Nat} (hdue : a.nextDue? = some due) :
    ∀ x ∈ a.alarms, due ≤ x.due := by
  obtain ⟨x, hx, rfl⟩ := Option.map_eq_some_iff.mp hdue
  obtain ⟨xs, halarms⟩ := List.head?_eq_some_iff.mp hx
  exact h.isSorted.head_le halarms

/-- At the time of the next alarm something is to be done. -/
theorem next?_moveTo_ne_none {due : Nat} (hdue : a.nextDue? = some due) :
    (a.moveTo due).next? ≠ none := by
  obtain ⟨x, hx, rfl⟩ := Option.map_eq_some_iff.mp hdue
  obtain ⟨xs, halarms⟩ := List.head?_eq_some_iff.mp hx
  unfold next? nextTurn moveTo
  cases hturn : a.turn with
  | cons j rest => simp
  | nil => cases a.queued <;> simp [halarms, isDue]

/-- Before the next alarm nothing is to be done. -/
theorem next?_moveTo_eq_none (hnone : a.next? = none) (htidy : a.IsTidy) {time : Nat}
    (htime : ∀ due, a.nextDue? = some due → time < due) : (a.moveTo time).next? = none := by
  obtain ⟨hturn, hqueued, hlater⟩ := of_next?_eq_none htidy hnone
  have hnow : (a.alarms.takeWhile (a.moveTo time).isDue) = [] := by
    cases halarms : a.alarms with
    | nil => rfl
    | cons x xs =>
      have hdue := htime x.due (by simp [nextDue?, halarms])
      have hahead := hlater (x.due, x.job) (by simp [later, hturn, halarms])
      have hnot : ¬ x.due ≤ max a.now time := by
        change a.now < x.due at hahead
        omega
      simp [isDue, moveTo, hnot]
  unfold next? nextTurn
  change (a.moveTo time).turn = [] at hturn
  change (a.moveTo time).queued = [] at hqueued
  change ((a.moveTo time).alarms.takeWhile (a.moveTo time).isDue) = [] at hnow
  rw [hturn, hqueued, hnow]
  rfl

theorem later_moveTo (hturn : a.turn = []) (time : Nat) : (a.moveTo time).later = a.later := by
  simp [later, moveTo, hturn]

theorem isTidy_moveTo (h : a.IsTidy) {time : Nat} (htime : ∀ x ∈ a.alarms, time ≤ x.due) :
    (a.moveTo time).IsTidy :=
  ⟨h.alarms, h.sorted, fun x hx => Nat.max_le.mpr ⟨h.ahead x hx, htime x hx⟩, h.queued⟩

end Agenda

/-! ## The outlook -/

namespace Board

variable {R C K : Type} {b c : Board R C K}

/-- The activities in line go on now. -/
def runs (b : Board R C K) : List (Nat × Job K) := b.line.map fun id => (b.now, .run id)

/-- What is to come, and when. -/
def outlook (b : Board R C K) : List (Nat × Job K) := b.runs ++ b.agenda.later

theorem mem_runs {x : Nat × Job K} : x ∈ b.runs ↔ ∃ id ∈ b.line, (b.now, .run id) = x :=
  List.mem_map

theorem now_le_of_mem_outlook (h : b.agenda.IsTidy) {x : Nat × Job K} (hx : x ∈ b.outlook) :
    b.now ≤ x.1 := by
  obtain hx | hx := List.mem_append.mp hx
  · obtain ⟨id, -, rfl⟩ := mem_runs.mp hx
    exact Nat.le_refl _
  · exact h.now_le hx

theorem isByTime_outlook (h : b.agenda.IsTidy) : IsByTime b.outlook := by
  refine List.pairwise_append.mpr ⟨?_, h.isByTime, ?_⟩
  · rw [runs, List.pairwise_map]
    exact List.pairwise_of_forall_mem_list fun _ _ _ _ => Nat.le_refl _
  · intro x hx y hy
    obtain ⟨id, -, rfl⟩ := mem_runs.mp hx
    exact h.now_le hy

/-- What is to come is on the agenda. -/
theorem mem_jobs_of_mem_outlook {x : Nat × Job K} (hx : x ∈ b.outlook) : x.2 ∈ b.jobs := by
  obtain hx | hx := List.mem_append.mp hx
  · obtain ⟨id, hid, rfl⟩ := mem_runs.mp hx
    obtain ⟨j, hj, hrun⟩ := List.mem_filterMap.mp hid
    obtain rfl : j = .run id := by
      cases j with
      | run i =>
        cases hrun
        rfl
      | _ => cases hrun
    exact List.mem_append_left _ hj
  · obtain hx | hx := List.mem_append.mp hx
    · obtain ⟨j, hj, rfl⟩ := List.mem_map.mp hx
      exact List.mem_append_left _ (List.mem_append_left _ (List.mem_filter.mp hj).1)
    · obtain ⟨y, hy, rfl⟩ := List.mem_map.mp hx
      exact List.mem_append_right _ (List.mem_map_of_mem hy)

theorem outlook_of_line (hline : c.line = b.line) (hnow : c.now = b.now)
    (hlater : c.agenda.later = b.agenda.later) : c.outlook = b.outlook := by
  rw [outlook, runs, hline, hnow, hlater]
  rfl

/-- Whoever joins the line stands in front of the alarms. -/
theorem outlook_queue_run (b : Board R C K) (id : Nat) :
    (b.queue (.run id)).outlook = b.runs ++ (b.now, .run id) :: b.agenda.later := by
  have hline : (b.queue (.run id)).line = b.line ++ [id] := line_queue b (.run id)
  have hruns : (b.queue (.run id)).runs = b.runs ++ [(b.now, .run id)] := by
    rw [runs, hline, List.map_append]
    rfl
  have hlater : (b.queue (.run id)).agenda.later = b.agenda.later := rfl
  rw [outlook, hruns, hlater, List.append_assoc, List.singleton_append]

theorem outlook_spawn (b : Board R C K) (role : R) (next : C) :
    (b.spawn role next).outlook = b.runs ++ (b.now, .run b.nextId) :: b.agenda.later :=
  outlook_queue_run b b.nextId

theorem later_queueAll (b : Board R C K) (js : List (Job K)) :
    (b.queueAll js).agenda.later = b.agenda.later ∧ (b.queueAll js).now = b.now :=
  queueAll_induction
    (motive := fun c => c.agenda.later = b.agenda.later ∧ c.now = b.now) ⟨rfl, rfl⟩
    fun _ _ _ hc => hc

theorem isTidy_queueAll (h : b.agenda.IsTidy) {js : List (Job K)}
    (hjs : ∀ j ∈ js, j.isAlarm = false) : (b.queueAll js).agenda.IsTidy :=
  queueAll_induction (motive := (·.agenda.IsTidy)) h fun _ j hj hc =>
    Agenda.isTidy_queue hc (hjs j hj)

theorem now_finish (b : Board R C K) (id : Nat) (failure : Option Failure) :
    (b.finish id failure).now = b.now := (later_queueAll _ _).2

theorem outlook_finish (b : Board R C K) (id : Nat) (failure : Option Failure) :
    (b.finish id failure).outlook = b.outlook :=
  outlook_of_line (line_finish b id failure) (now_finish b id failure) (later_queueAll _ _).1

theorem isTidy_finish (h : b.agenda.IsTidy) (id : Nat) (failure : Option Failure) :
    (b.finish id failure).agenda.IsTidy := by
  have hover : (b.setPhase id (.over failure)).agenda.IsTidy := h
  refine isTidy_queueAll hover fun j hj => ?_
  obtain rfl | hj := List.mem_cons.mp hj
  · rfl
  · obtain ⟨i, -, rfl⟩ := List.mem_map.mp hj
    rfl

theorem later_watch (b : Board R C K) (id : Nat) (other : Activity R C) :
    (watch id b other).agenda.later = b.agenda.later ∧ (watch id b other).now = b.now := by
  unfold watch
  split <;> exact ⟨rfl, rfl⟩

theorem later_await (b : Board R C K) (id : Nat) (others : List (Activity R C)) (next : C) :
    (b.await id others next).agenda.later = b.agenda.later ∧ (b.await id others next).now = b.now :=
  await_induction (motive := fun c => c.agenda.later = b.agenda.later ∧ c.now = b.now) ⟨rfl, rfl⟩
    fun c other hc =>
      ⟨(later_watch c id other).1.trans hc.1, (later_watch c id other).2.trans hc.2⟩

theorem outlook_await (b : Board R C K) (id : Nat) (others : List (Activity R C)) (next : C) :
    (b.await id others next).outlook = b.outlook :=
  outlook_of_line (line_await b id others next) (later_await b id others next).2
    (later_await b id others next).1

theorem isTidy_await (h : b.agenda.IsTidy) (id : Nat) (others : List (Activity R C)) (next : C) :
    (b.await id others next).agenda.IsTidy := by
  refine await_induction (motive := (·.agenda.IsTidy)) h fun c other hc => ?_
  unfold watch
  split
  · exact Agenda.isTidy_queue hc rfl
  · exact hc

theorem outlook_sleep (b : Board R C K) (id time : Nat) (next : C) :
    (b.sleep id time next).outlook = insertDue (b.now + time, .wake id) b.outlook := by
  have hlater : (b.sleep id time next).agenda.later =
      insertDue (b.now + time, .wake id) b.agenda.later := Agenda.later_arm b.agenda time (.wake id)
  have hruns : (b.sleep id time next).runs = b.runs := rfl
  rw [outlook, hlater, hruns, outlook, insertDue_append]
  intro x hx
  obtain ⟨i, -, rfl⟩ := mem_runs.mp hx
  exact Nat.le_add_right _ _

/-- The next job is an alarm that is due, or somebody goes on by it, or it is of no consequence. -/
theorem outlook_of_next? {j : Job K} (h : b.agenda.IsTidy) (hnext : b.next? = some (j, c)) :
    b.outlook = (j.run?.toList.map fun id => (b.now, .run id)) ++ c.runs ++
        (if j.isAlarm then [(b.now, j)] else []) ++ c.agenda.later ∧
      c.agenda.IsTidy ∧ c.now = b.now := by
  have hline := (line_of_next? hnext h.quiet).1
  obtain ⟨⟨i, a⟩, ha, heq⟩ := Option.map_eq_some_iff.mp hnext
  cases heq
  obtain ⟨hlater, htidy, hnow⟩ := Agenda.later_of_next? h ha
  refine ⟨?_, htidy, hnow⟩
  rw [outlook, hlater, runs, hline, List.map_append, runs, now, now, hnow, List.append_assoc,
    List.append_assoc, List.append_assoc]

/-- Only alarms are left when nothing is to be done. -/
theorem isAlarm_of_rest (h : b.agenda.IsTidy) (hnone : b.agenda.next? = none) {j : Job K}
    (hj : j ∈ b.jobs) : j.isAlarm = true := by
  obtain ⟨hturn, hqueued, -⟩ := Agenda.of_next?_eq_none h hnone
  rw [jobs, Agenda.jobs, hturn, hqueued] at hj
  obtain ⟨x, hx, rfl⟩ := List.mem_map.mp hj
  exact h.alarms x hx

/-- The time moves on once nothing is to be done. -/
theorem outlook_moveTo (h : b.agenda.IsTidy) (hnone : b.agenda.next? = none) (time : Nat) :
    (b.moveTo time).outlook = b.outlook := by
  obtain ⟨hturn, -, -⟩ := Agenda.of_next?_eq_none h hnone
  have hline := line_of_rest hnone
  have hline' : (b.moveTo time).line = [] := hline
  rw [outlook, runs, hline', outlook, runs, hline]
  exact Agenda.later_moveTo hturn time

/-- A timer that is disarmed is not to come any more. -/
theorem outlook_disarm [DecidableEq K] (b : Board R C K) (key : K) :
    (b.disarm key).outlook = b.outlook.filter (·.2 ≠ .fire key) := by
  have hruns : (b.disarm key).runs = b.runs := by
    rw [runs, (sameLine_disarm b key).line]
    rfl
  have hkept : b.runs.filter (·.2 ≠ .fire key) = b.runs := by
    refine List.filter_eq_self.mpr fun x hx => ?_
    obtain ⟨id, -, rfl⟩ := mem_runs.mp hx
    simp
  have hlater : (b.disarm key).agenda.later = b.agenda.later.filter (·.2 ≠ .fire key) :=
    Agenda.later_disarm b.agenda _
  rw [outlook, hruns, hlater, outlook, List.filter_append, hkept]

theorem outlook_disarmAll [DecidableEq K] (ks : List K) (b : Board R C K) :
    (ks.foldl disarm b).outlook = b.outlook.filter fun x => ∀ k ∈ ks, x.2 ≠ .fire k := by
  induction ks generalizing b with
  | nil => simp
  | cons k ks ih =>
    rw [List.foldl_cons, ih, outlook_disarm, List.filter_filter]
    refine List.filter_congr fun x _ => ?_
    simp [Bool.and_comm]

theorem isTidy_disarmAll [DecidableEq K] (h : b.agenda.IsTidy) (ks : List K) :
    (ks.foldl disarm b).agenda.IsTidy := by
  induction ks generalizing b with
  | nil => exact h
  | cons k ks ih => exact ih (Agenda.isTidy_disarm h _)

end Board

end Workbench.Turn
