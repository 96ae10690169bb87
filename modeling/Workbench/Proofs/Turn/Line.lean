import Workbench.Proofs.Turn.Each

/-!
# The line of a board

The activities that are to go on stand in line: those of the present turn, and then those of the
next one. Who is to go on next stands in front, and who comes to be ready joins the line at its end;
nobody gets into it by an alarm.
-/
namespace Workbench.Turn

/-- The activity that goes on by this job. -/
def Job.run? {K : Type} : Job K → Option Nat
  | .run id => some id
  | _ => none

/-- The activities of these jobs that are to go on. -/
def runsOf {K : Type} (js : List (Job K)) : List Nat := js.filterMap Job.run?

@[simp]
theorem runsOf_append {K : Type} (js ks : List (Job K)) :
    runsOf (js ++ ks) = runsOf js ++ runsOf ks := List.filterMap_append

theorem runsOf_filter_ne_fire {K : Type} [DecidableEq K] (js : List (Job K)) (key : K) :
    runsOf (js.filter (· ≠ .fire key)) = runsOf js := by
  induction js with
  | nil => rfl
  | cons j js ih =>
    by_cases hj : j = .fire key
    · subst hj
      rw [List.filter_cons_of_neg (by simp), ih]
      rfl
    · rw [List.filter_cons_of_pos (by simpa using hj)]
      simp only [runsOf, List.filterMap_cons] at ih ⊢
      rw [ih]

/-- No activity goes on by an alarm. -/
def Agenda.HasQuietAlarms {K : Type} (a : Agenda (Job K)) : Prop :=
  ∀ x ∈ a.alarms, x.job.run? = none

theorem Agenda.runsOf_alarms {K : Type} {xs : List (Alarm (Job K))}
    (h : ∀ x ∈ xs, x.job.run? = none) : runsOf (xs.map (·.job)) = [] := by
  simpa [runsOf] using h

theorem Agenda.hasQuietAlarms_arm {K : Type} {a : Agenda (Job K)} (h : a.HasQuietAlarms)
    (delay : Nat) {j : Job K} (hj : j.run? = none) : (a.arm delay j).HasQuietAlarms := by
  intro x hx
  have hperm := insertAlarm_perm ⟨a.now + delay, j⟩ a.alarms
  obtain rfl | hx := List.mem_cons.mp (hperm.mem_iff.mp hx)
  · exact hj
  · exact h x hx

namespace Board

variable {R C K : Type}

/-- The activities in line. -/
def line (b : Board R C K) : List Nat := runsOf (b.agenda.turn ++ b.agenda.queued)

/-- The two boards have the same activities, in the same line. -/
structure SameLine (b c : Board R C K) : Prop where
  activities : c.activities = b.activities
  nextId : c.nextId = b.nextId
  line : c.line = b.line
  quiet : b.agenda.HasQuietAlarms → c.agenda.HasQuietAlarms

theorem SameLine.refl (b : Board R C K) : SameLine b b := ⟨rfl, rfl, rfl, id⟩

theorem SameLine.trans {b c d : Board R C K} (h : SameLine b c) (h' : SameLine c d) :
    SameLine b d :=
  ⟨h'.activities.trans h.activities, h'.nextId.trans h.nextId, h'.line.trans h.line,
    h'.quiet ∘ h.quiet⟩

/-! ## What each operation does to the line -/

theorem line_queue (b : Board R C K) (j : Job K) :
    (b.queue j).line = b.line ++ j.run?.toList := by
  unfold line queue Agenda.queue
  rw [← List.append_assoc, runsOf_append]
  rfl

theorem line_queue_of_none (b : Board R C K) {j : Job K} (hj : j.run? = none) :
    (b.queue j).line = b.line := by
  rw [line_queue, hj]
  exact List.append_nil _

theorem line_queueAll (b : Board R C K) {js : List (Job K)} (hjs : ∀ j ∈ js, j.run? = none) :
    (b.queueAll js).line = b.line :=
  queueAll_induction (motive := (·.line = b.line)) rfl fun c j hj hc =>
    (line_queue_of_none c (hjs j hj)).trans hc

@[simp]
theorem line_spawn (b : Board R C K) (role : R) (next : C) :
    (b.spawn role next).line = b.line ++ [b.nextId] := line_queue b (.run b.nextId)

@[simp]
theorem line_finish (b : Board R C K) (id : Nat) (failure : Option Failure) :
    (b.finish id failure).line = b.line := by
  refine line_queueAll _ fun j hj => ?_
  obtain rfl | hj := List.mem_cons.mp hj
  · rfl
  · obtain ⟨i, -, rfl⟩ := List.mem_map.mp hj
    rfl

theorem line_watch (b : Board R C K) (id : Nat) (other : Activity R C) :
    (watch id b other).line = b.line := by
  unfold watch
  split
  · exact line_queue_of_none b rfl
  · rfl

@[simp]
theorem line_await (b : Board R C K) (id : Nat) (others : List (Activity R C)) (next : C) :
    (b.await id others next).line = b.line :=
  await_induction (motive := (·.line = b.line)) rfl fun c other hc =>
    (line_watch c id other).trans hc

theorem sameLine_arm (b : Board R C K) (delay : Nat) (key : K) : SameLine b (b.arm delay key) :=
  ⟨rfl, rfl, rfl, fun h => Agenda.hasQuietAlarms_arm h delay rfl⟩

theorem sameLine_disarm [DecidableEq K] (b : Board R C K) (key : K) :
    SameLine b (b.disarm key) := by
  refine ⟨rfl, rfl, ?_, fun h x hx => h x (List.mem_filter.mp hx).1⟩
  simp only [line, disarm, Agenda.disarm, runsOf_append, runsOf_filter_ne_fire]

theorem sameLine_disarmAll [DecidableEq K] (ks : List K) (b : Board R C K) :
    SameLine b (ks.foldl disarm b) := by
  induction ks generalizing b with
  | nil => exact .refl b
  | cons k ks ih => exact (sameLine_disarm b k).trans (ih _)

theorem sameLine_moveTo (b : Board R C K) (time : Nat) : SameLine b (b.moveTo time) :=
  ⟨rfl, rfl, rfl, id⟩

/-- Whoever goes on next stood in front. -/
theorem line_of_next? {b c : Board R C K} {j : Job K} (h : b.next? = some (j, c))
    (hquiet : b.agenda.HasQuietAlarms) :
    b.line = j.run?.toList ++ c.line ∧ c.agenda.HasQuietAlarms := by
  obtain ⟨⟨i, a⟩, ha, heq⟩ := Option.map_eq_some_iff.mp h
  cases heq
  have hcons (js : List (Job K)) : runsOf (j :: js) = j.run?.toList ++ runsOf js := by
    cases j <;> rfl
  unfold Agenda.next? at ha
  cases hturn : b.agenda.turn with
  | cons i rest =>
    simp only [hturn, Option.some.injEq, Prod.mk.injEq] at ha
    obtain ⟨rfl, rfl⟩ := ha
    refine ⟨?_, hquiet⟩
    rw [line, hturn, List.cons_append, hcons]
    rfl
  | nil =>
    cases hnext : b.agenda.nextTurn with
    | nil => simp [hturn, hnext] at ha
    | cons i rest =>
      simp only [hturn, hnext, Option.some.injEq, Prod.mk.injEq] at ha
      obtain ⟨rfl, rfl⟩ := ha
      refine ⟨?_, fun x hx => hquiet x ((List.dropWhile_sublist _).subset hx)⟩
      -- the new turn is what was queued, and then alarms, by which nobody goes on
      have halarms : runsOf ((b.agenda.alarms.takeWhile b.agenda.isDue).map (·.job)) = [] :=
        Agenda.runsOf_alarms fun x hx => hquiet x ((List.takeWhile_sublist _).subset hx)
      have hqueued : runsOf b.agenda.nextTurn = runsOf b.agenda.queued := by
        rw [Agenda.nextTurn, runsOf_append, halarms, List.append_nil]
      rw [line, hturn, List.nil_append, ← hqueued, hnext, hcons]
      simp [line]

/-- Nobody stands in line when nothing is to be done. -/
theorem line_of_rest {b : Board R C K} (h : b.agenda.next? = none) : b.line = [] := by
  unfold Agenda.next? at h
  cases hturn : b.agenda.turn with
  | cons j rest => simp [hturn] at h
  | nil =>
    cases hnext : b.agenda.nextTurn with
    | cons j rest => simp [hturn, hnext] at h
    | nil =>
      obtain ⟨hqueued, -⟩ := List.append_eq_nil_iff.mp hnext
      rw [line, hturn, hqueued]
      rfl

end Board

/-! ## Who is to go on -/

/-- What an activity in this phase does when it goes on, if it is to go on now. -/
def Phase.ready? {C : Type} : Phase C → Option C
  | .ready next => some next
  | _ => none

/-- An activity of some roles that is to go on: its number, and what it does then. -/
def Activity.upcoming? {R C : Type} (p : R → Bool) (a : Activity R C) : Option (Nat × C) :=
  if p a.role then a.phase.ready?.map (a.id, ·) else none

theorem Activity.upcoming?_of_role {R C : Type} {p : R → Bool} {a : Activity R C}
    (h : p a.role = false) : a.upcoming? p = none := by
  simp [upcoming?, h]

theorem Activity.upcoming?_of_over {R C : Type} {p : R → Bool} {a : Activity R C}
    {failure : Option Failure} (h : a.phase = .over failure) : a.upcoming? p = none := by
  simp [upcoming?, Phase.ready?, h]

theorem Activity.filter_upcoming? {R C : Type} (p : R → Bool) (a : Activity R C) (id : Nat) :
    (a.upcoming? p).filter (·.1 ≠ id) = if a.id = id then none else a.upcoming? p := by
  unfold upcoming?
  by_cases hid : a.id = id <;> cases p a.role <;> cases a.phase.ready? <;> simp [hid, Option.filter]

theorem Activity.upcoming?_eq_some {R C : Type} {p : R → Bool} {a : Activity R C} {x : Nat × C} :
    a.upcoming? p = some x ↔ p a.role = true ∧ a.phase = .ready x.2 ∧ a.id = x.1 := by
  obtain ⟨id, next⟩ := x
  unfold upcoming? Phase.ready?
  cases a.phase <;> simp [and_comm]

namespace Board

variable {R C K : Type} {p : R → Bool}

/-- The activities of some roles that are to go on, first to last. -/
def upcoming (b : Board R C K) (p : R → Bool) : List (Nat × C) :=
  b.activities.filterMap (Activity.upcoming? p)

theorem mem_upcoming {b : Board R C K} {x : Nat × C} :
    x ∈ b.upcoming p ↔ ∃ a ∈ b.activities, p a.role = true ∧ a.phase = .ready x.2 ∧ a.id = x.1 := by
  simp [upcoming, Activity.upcoming?_eq_some]

theorem upcoming_spawn (b : Board R C K) (role : R) (next : C) :
    (b.spawn role next).upcoming p =
      b.upcoming p ++ if p role then [(b.nextId, next)] else [] := by
  simp only [upcoming, spawn, List.filterMap_append]
  cases h : p role <;> simp [Activity.upcoming?, Phase.ready?, h]

theorem upcoming_modify (b : Board R C K) {id : Nat} {f : Activity R C → Activity R C}
    (hf : ∀ a ∈ b.activities, a.id = id → (f a).upcoming? p = a.upcoming? p) :
    (b.modify id f).upcoming p = b.upcoming p := by
  simp only [upcoming, modify, List.filterMap_map]
  refine List.filterMap_congr fun a ha => ?_
  dsimp only [Function.comp_apply]
  split
  · exact hf a ha ‹_›
  · rfl

/-- The number is that of an activity of another role, if of any. -/
def IsOther (p : R → Bool) (b : Board R C K) (id : Nat) : Prop :=
  ∀ a ∈ b.activities, a.id = id → p a.role = false

theorem IsOther.ne_of_mem {b : Board R C K} {id : Nat} (h : b.IsOther p id) {x : Nat × C}
    (hx : x ∈ b.upcoming p) : x.1 ≠ id := by
  rintro rfl
  obtain ⟨a, ha, hrole, -, hid⟩ := mem_upcoming.mp hx
  rw [h a ha hid] at hrole
  cases hrole

theorem IsSound.isOther {b : Board R C K} (h : b.IsSound) {a : Activity R C}
    (ha : a ∈ b.activities) (hrole : p a.role = false) : b.IsOther p a.id := by
  intro other hother hid
  rw [h.activity_eq hother ha hid, hrole]

theorem IsSound.nodup_upcoming {b : Board R C K} (h : b.IsSound) :
    ((b.upcoming p).map (·.1)).Nodup := by
  have hsub (as : List (Activity R C)) :
      ((as.filterMap (Activity.upcoming? p)).map (·.1)).Sublist (as.map (·.id)) := by
    induction as with
    | nil => exact .slnil
    | cons a as ih =>
      cases hup : a.upcoming? p with
      | none =>
        rw [List.filterMap_cons_none hup]
        exact ih.cons _
      | some x =>
        rw [List.filterMap_cons_some hup, List.map_cons, List.map_cons,
          (Activity.upcoming?_eq_some.mp hup).2.2]
        exact ih.cons_cons _
  exact h.nodup_activities.sublist (hsub b.activities)

/-- Nothing changes for these roles when an activity of another one does. -/
theorem upcoming_setPhase (b : Board R C K) {id : Nat} (q : Phase C) (h : b.IsOther p id) :
    (b.setPhase id q).upcoming p = b.upcoming p := by
  refine upcoming_modify b fun a ha hid => ?_
  rw [Activity.upcoming?_of_role (h a ha hid), Activity.upcoming?_of_role]
  exact h a ha hid

theorem upcoming_watch (b : Board R C K) (id : Nat) (other : Activity R C) :
    (watch id b other).upcoming p = b.upcoming p := by
  unfold watch
  split
  · rfl
  · exact upcoming_modify b fun _ _ _ => rfl

theorem upcoming_await (b : Board R C K) {id : Nat} (others : List (Activity R C)) (next : C)
    (h : b.IsOther p id) :
    (b.await id others next).upcoming p = b.upcoming p :=
  await_induction (motive := (·.upcoming p = b.upcoming p)) (upcoming_setPhase b _ h)
    fun c other hc => (upcoming_watch c id other).trans hc

theorem hasQuietAlarms_finish {b : Board R C K} (h : b.agenda.HasQuietAlarms) (id : Nat)
    (failure : Option Failure) : (b.finish id failure).agenda.HasQuietAlarms :=
  queueAll_induction (motive := (·.agenda.HasQuietAlarms)) h fun _ _ _ hc => hc

/-- Whoever ends is not to go on any more. -/
theorem upcoming_finish (b : Board R C K) (id : Nat) (failure : Option Failure) :
    (b.finish id failure).upcoming p = (b.upcoming p).filter (·.1 ≠ id) := by
  simp only [upcoming, finish, activities_queueAll, setPhase, modify, List.filterMap_map,
    List.filter_filterMap]
  refine List.filterMap_congr fun a _ => ?_
  rw [Activity.filter_upcoming?]
  dsimp only [Function.comp_apply]
  split
  · exact Activity.upcoming?_of_over rfl
  · rfl

theorem upcoming_remove (b : Board R C K) (id : Nat) :
    (b.remove id).upcoming p = (b.upcoming p).filter (·.1 ≠ id) := by
  simp only [upcoming, remove, List.filterMap_filter, List.filter_filterMap]
  refine List.filterMap_congr fun a _ => ?_
  rw [Activity.filter_upcoming?]
  by_cases hid : a.id = id <;> simp [hid]

/-! ## First come, first served -/

/-- The activities of these roles that are to go on are these, and they stand in line in this
order. -/
structure IsFirstCome (p : R → Bool) (b : Board R C K) (up : List (Nat × C)) : Prop where
  quiet : b.agenda.HasQuietAlarms
  lt_nextId : ∀ i ∈ b.line, i < b.nextId
  upcoming : b.upcoming p = up
  order : b.line.filter (· ∈ up.map (·.1)) = up.map (·.1)

namespace IsFirstCome

variable {b c : Board R C K} {up : List (Nat × C)}

theorem mem_line (h : b.IsFirstCome p up) {x : Nat × C} (hx : x ∈ up) : x.1 ∈ b.line := by
  have hmem : x.1 ∈ up.map (·.1) := List.mem_map_of_mem hx
  rw [← h.order] at hmem
  exact (List.mem_filter.mp hmem).1

/-- Others, who are not of these roles, may join the line. -/
theorem of_joined (h : b.IsFirstCome p up) (hup : c.upcoming p = b.upcoming p)
    (hnext : c.nextId = b.nextId) (hquiet : c.agenda.HasQuietAlarms) {is : List Nat}
    (hline : c.line = b.line ++ is) (his : ∀ i ∈ is, i < b.nextId ∧ b.IsOther p i) :
    c.IsFirstCome p up := by
  refine ⟨hquiet, ?_, hup.trans h.upcoming, ?_⟩
  · rw [hline, hnext]
    intro i hi
    obtain hi | hi := List.mem_append.mp hi
    · exact h.lt_nextId i hi
    · exact (his i hi).1
  · have hnone : is.filter (· ∈ up.map (·.1)) = [] := by
      refine List.filter_eq_nil_iff.mpr fun i hi hmem => ?_
      obtain ⟨x, hx, rfl⟩ := List.mem_map.mp (of_decide_eq_true hmem)
      exact (his x.1 hi).2.ne_of_mem (h.upcoming ▸ hx) rfl
    rw [hline, List.filter_append, hnone, List.append_nil, h.order]

theorem of_line (h : b.IsFirstCome p up) (hup : c.upcoming p = b.upcoming p)
    (hnext : c.nextId = b.nextId) (hquiet : c.agenda.HasQuietAlarms) (hline : c.line = b.line) :
    c.IsFirstCome p up :=
  h.of_joined hup hnext hquiet (hline.trans (List.append_nil _).symm) (by simp)

theorem sameLine (h : b.IsFirstCome p up) (hc : SameLine b c) : c.IsFirstCome p up := by
  refine h.of_line ?_ hc.nextId (hc.quiet h.quiet) hc.line
  rw [Board.upcoming, hc.activities, Board.upcoming]

/-- A new activity joins the line at its end. -/
theorem spawn (h : b.IsFirstCome p up) (role : R) (next : C) :
    (b.spawn role next).IsFirstCome p (up ++ if p role then [(b.nextId, next)] else []) := by
  have hnew : b.nextId ∉ b.line := fun hmem => Nat.lt_irrefl _ (h.lt_nextId _ hmem)
  refine ⟨h.quiet, ?_, by rw [upcoming_spawn, h.upcoming], ?_⟩
  · rw [line_spawn]
    intro i hi
    change i < b.nextId + 1
    obtain hi | hi := List.mem_append.mp hi
    · exact Nat.lt_succ_of_lt (h.lt_nextId i hi)
    · rw [List.mem_singleton.mp hi]
      exact Nat.lt_succ_self _
  · rw [line_spawn]
    cases hrole : p role
    · -- it is of another role
      have hother : b.nextId ∉ up.map (·.1) := by
        intro hmem
        obtain ⟨x, hx, hid⟩ := List.mem_map.mp hmem
        exact hnew (hid ▸ h.mem_line hx)
      simp only [Bool.false_eq_true, if_false, List.append_nil, List.filter_append, h.order]
      simp only [List.filter_cons, hother, decide_false, Bool.false_eq_true, if_false,
        List.filter_nil, List.append_nil]
    · simp only [if_true, List.map_append, List.map_cons, List.map_nil, List.filter_append]
      congr 1
      · -- nobody who stands in line has its number
        rw [← h.order]
        refine List.filter_congr fun i hi => ?_
        have hne : i ≠ b.nextId := Nat.ne_of_lt (h.lt_nextId i hi)
        simp [hne, h.order]
      · simp

/-! ### Activities of other roles -/

theorem setPhase (h : b.IsFirstCome p up) {id : Nat} (hid : b.IsOther p id) (q : Phase C) :
    (b.setPhase id q).IsFirstCome p up :=
  h.of_line (upcoming_setPhase b q hid) rfl h.quiet rfl

theorem finish (h : b.IsFirstCome p up) {id : Nat} (hid : b.IsOther p id)
    (failure : Option Failure) : (b.finish id failure).IsFirstCome p up := by
  refine h.of_line ?_ (nextId_queueAll _ _) (hasQuietAlarms_finish h.quiet id failure)
    (line_finish b id failure)
  rw [upcoming_finish, List.filter_eq_self]
  intro x hx
  simpa using hid.ne_of_mem hx

theorem sleep (h : b.IsFirstCome p up) {id : Nat} (hid : b.IsOther p id) (time : Nat) (next : C) :
    (b.sleep id time next).IsFirstCome p up :=
  h.of_line (upcoming_setPhase b (.asleep next) hid) rfl
    (Agenda.hasQuietAlarms_arm h.quiet time rfl) rfl

theorem await (h : b.IsFirstCome p up) {id : Nat} (hid : b.IsOther p id)
    (others : List (Activity R C)) (next : C) : (b.await id others next).IsFirstCome p up := by
  have hquiet : (b.await id others next).agenda.HasQuietAlarms := by
    refine await_induction (motive := (·.agenda.HasQuietAlarms)) h.quiet fun c other hc => ?_
    unfold watch
    split <;> exact hc
  exact h.of_line (upcoming_await b others next hid) (nextId_await b id others next) hquiet
    (line_await b id others next)

theorem goOn (h : b.IsFirstCome p up) (hsound : b.IsSound) {id : Nat} (hid : b.IsOther p id)
    {q : Phase C} (hphase : b.phase? id = some q) (next : C) :
    ((b.setPhase id (.ready next)).queue (.run id)).IsFirstCome p up := by
  obtain ⟨role, hmem⟩ := IsSound.task_of_phase? hphase
  refine h.of_joined (upcoming_setPhase b _ hid) rfl h.quiet (line_queue _ (.run id))
    fun i hi => ?_
  obtain rfl := List.mem_singleton.mp hi
  exact ⟨hsound.lt_nextId _ hmem, hid⟩

theorem wake (h : b.IsFirstCome p up) (hsound : b.IsSound) (id : Nat)
    (hid : ∀ next, b.phase? id = some (.asleep next) → b.IsOther p id) :
    (b.wake id).IsFirstCome p up := by
  unfold Board.wake
  split
  case h_1 next hphase => exact h.goOn hsound (hid next hphase) hphase next
  case h_2 => exact h

theorem count (h : b.IsFirstCome p up) (hsound : b.IsSound) (id : Nat)
    (hid : ∀ n next, b.phase? id = some (.waiting n next) → b.IsOther p id) :
    (b.count id).IsFirstCome p up := by
  unfold Board.count
  split
  case h_1 n next hphase =>
    split
    · exact h.goOn hsound (hid n next hphase) hphase next
    · exact h.setPhase (hid n next hphase) _
  case h_2 => exact h

/-- Whoever leaves was not to go on. -/
theorem remove (h : b.IsFirstCome p up) {id : Nat} (hid : ∀ x ∈ up, x.1 ≠ id) :
    (b.remove id).IsFirstCome p up := by
  refine h.of_line ?_ rfl h.quiet rfl
  rw [upcoming_remove, List.filter_eq_self, h.upcoming]
  simpa using hid

/-! ### The next one -/

/-- Somebody else is next. -/
theorem pass (h : b.IsFirstCome p up) {j : Job K} (hnext : b.next? = some (j, c))
    (hj : ∀ id, j.run? = some id → ∀ x ∈ up, x.1 ≠ id) : c.IsFirstCome p up := by
  obtain ⟨hline, hquiet⟩ := line_of_next? hnext h.quiet
  obtain ⟨⟨i, a⟩, -, heq⟩ := Option.map_eq_some_iff.mp hnext
  cases heq
  refine ⟨hquiet, fun i hi => h.lt_nextId i ?_, h.upcoming, ?_⟩
  · rw [hline]
    exact List.mem_append_right _ hi
  · have hnone : j.run?.toList.filter (· ∈ up.map (·.1)) = [] := by
      refine List.filter_eq_nil_iff.mpr fun id hid hmem => ?_
      obtain ⟨x, hx, rfl⟩ := List.mem_map.mp (of_decide_eq_true hmem)
      exact hj x.1 (Option.mem_toList.mp hid) x hx rfl
    have horder := h.order
    rwa [hline, List.filter_append, hnone, List.nil_append] at horder

/-- Nobody is left to go on when nothing is to be done. -/
theorem eq_nil_of_rest (h : b.IsFirstCome p up) (hnone : b.agenda.next? = none) : up = [] := by
  refine List.eq_nil_iff_forall_not_mem.mpr fun x hx => ?_
  have hmem := h.mem_line hx
  rw [line_of_rest hnone] at hmem
  cases hmem

/-- The others, once the first one has been taken out of the line and has ended. -/
theorem of_served {x : Nat × C} {rest : List (Nat × C)} (h : b.IsFirstCome p (x :: rest))
    (hquiet : c.agenda.HasQuietAlarms) (hline : b.line = x.1 :: c.line)
    (hnextId : c.nextId = b.nextId) (hup : c.upcoming p = rest) : c.IsFirstCome p rest := by
  refine ⟨hquiet, fun i hi => ?_, hup, ?_⟩
  · rw [hnextId]
    exact h.lt_nextId i (hline ▸ List.mem_cons_of_mem _ hi)
  · have horder := h.order
    rw [hline, List.filter_cons_of_pos (by simp), List.map_cons, List.cons.injEq] at horder
    calc c.line.filter (· ∈ rest.map (·.1))
        = (c.line.filter (· ∈ x.1 :: rest.map (·.1))).filter (· ∈ rest.map (·.1)) := by
          rw [List.filter_filter]
          refine List.filter_congr fun i _ => ?_
          by_cases hi : i ∈ rest.map (·.1)
          · simp [hi]
          · simp [hi]
      _ = rest.map (·.1) := by
          rw [horder.2, List.filter_eq_self]
          simp

/-- One of these roles is next: it is the first of those that are to go on. -/
theorem front (h : b.IsFirstCome p up) (hsound : b.IsSound) {id : Nat}
    (hnext : b.next? = some (.run id, c)) {next : C} (hx : (id, next) ∈ up) :
    ∃ rest, up = (id, next) :: rest ∧ ∀ y ∈ rest, y.1 ≠ id := by
  have hline := (line_of_next? hnext h.quiet).1
  have horder := h.order
  have hnodup := hsound.nodup_upcoming (p := p)
  rw [h.upcoming] at hnodup
  cases up with
  | nil => cases hx
  | cons y rest =>
    rw [List.map_cons, List.nodup_cons] at hnodup
    have hmem : id ∈ (y :: rest).map (·.1) := List.mem_map_of_mem hx
    rw [hline, Job.run?, Option.toList_some, List.singleton_append,
      List.filter_cons_of_pos (by simpa using hmem), List.map_cons, List.cons.injEq] at horder
    obtain ⟨rfl, -⟩ := horder
    refine ⟨rest, ?_, fun z hz heq => hnodup.1 (heq ▸ List.mem_map_of_mem hz)⟩
    obtain heq | hrest := List.mem_cons.mp hx
    · rw [heq]
    · exact absurd (List.mem_map_of_mem (f := (·.1)) hrest) hnodup.1

/-- One of these roles is next, and it ends: the others are as they were. -/
theorem serve (h : b.IsFirstCome p up) (hsound : b.IsSound) {id : Nat}
    (hnext : b.next? = some (.run id, c)) {next : C} (hx : (id, next) ∈ up)
    {d : Board R C K} (hd : SameLine c d) (failure : Option Failure) :
    ∃ rest, up = (id, next) :: rest ∧ (d.finish id failure).IsFirstCome p rest := by
  obtain ⟨rest, rfl, hothers⟩ := h.front hsound hnext hx
  obtain ⟨hline, hquiet⟩ := line_of_next? hnext h.quiet
  obtain ⟨⟨i, a⟩, -, heq⟩ := Option.map_eq_some_iff.mp hnext
  cases heq
  refine ⟨rest, rfl, h.of_served ?_ ?_ ?_ ?_⟩
  · exact hasQuietAlarms_finish (hd.quiet hquiet) id failure
  · rw [line_finish, hd.line]
    exact hline
  · rw [Board.finish, nextId_queueAll]
    exact hd.nextId
  · rw [upcoming_finish, Board.upcoming, hd.activities]
    change (b.upcoming p).filter _ = rest
    rw [h.upcoming, List.filter_cons_of_neg (by simp), List.filter_eq_self]
    simpa using hothers

end IsFirstCome

end Board

end Workbench.Turn
