import Workbench.Proofs.Turn.Load
import Workbench.Proofs.Turn.Outlook
import Workbench.Proofs.Turn.Roster

/-!
# Waiting for all others

One activity of a board may wait for all the others to end; none of the others waits for anybody. Each
end is counted once, and is noticed before it is counted. So the one that waits goes on only when the
others have left, and until it has ended itself there is always something to be done, now or later.
-/
namespace Workbench.Turn

/-- The job by which it goes on with an activity, if it does not wait for others. -/
def Activity.job? {R C K : Type} (a : Activity R C) : Option (Job K) :=
  match a.phase with
  | .ready _ => some (.run a.id)
  | .asleep _ => some (.wake a.id)
  | .waiting .. => none
  | .over _ => some (.ended a.id)

/-- The activity that the job is the job of. -/
def Job.about? {K : Type} : Job K → Option Nat
  | .run id | .wake id | .ended id => some id
  | .count _ | .fire _ => none

theorem Activity.about?_of_job? {R C K : Type} {a : Activity R C} {j : Job K}
    (h : a.job? = some j) : j.about? = some a.id := by
  unfold Activity.job? at h
  split at h <;> cases h <;> rfl

/-- Is it the end of another that the activity counts? -/
def Job.isCountOf {K : Type} (u : Nat) : Job K → Bool
  | .count id => id == u
  | _ => false

/-- How many ends are still to be counted in this phase. -/
def Phase.awaited {C : Type} : Phase C → Nat
  | .waiting n _ => n
  | _ => 0

/-- How often the end of an activity is to be counted by another one, once it comes. -/
def Activity.owes {R C : Type} (u : Nat) (a : Activity R C) : Nat :=
  if a.isOver then 0 else a.watchers.count u

/-- One who is watched once more owes one end more. -/
theorem Activity.owes_watched {R C : Type} {u : Nat} {a : Activity R C} (h : a.isOver = false) :
    Activity.owes u { a with watchers := a.watchers ++ [u] } = a.owes u + 1 := by
  have hlive : Activity.isOver { a with watchers := a.watchers ++ [u] } = false := h
  unfold Activity.owes
  rw [hlive, h]
  simp

theorem Activity.job?_of_isOver {R C K : Type} {a : Activity R C} (h : a.isOver = true) :
    a.job? (K := K) = some (.ended a.id) := by
  unfold Activity.isOver at h
  split at h
  case h_1 hphase => rw [Activity.job?, hphase]
  case h_2 => cases h

namespace Agenda

variable {K : Type}

theorem sublist_queue (a : Agenda (Job K)) (j : Job K) : a.jobs.Sublist (a.queue j).jobs :=
  ((List.sublist_append_left a.queued [j]).append_left a.turn).append_right _

theorem insertAlarm_sublist (x : Alarm (Job K)) (xs : List (Alarm (Job K))) :
    xs.Sublist (insertAlarm x xs) := by
  induction xs with
  | nil => exact List.nil_sublist _
  | cons y ys ih =>
    unfold insertAlarm
    split
    · exact ih.cons_cons y
    · exact List.sublist_cons_self x (y :: ys)

theorem sublist_arm (a : Agenda (Job K)) (delay : Nat) (j : Job K) :
    a.jobs.Sublist (a.arm delay j).jobs :=
  ((insertAlarm_sublist _ _).map (·.job)).append_left _

/-- What is queued comes after everything but alarms. -/
theorem pair_sublist_queue {a : Agenda (Job K)} (h : a.IsTidy) {i : Job K} (hi : i ∈ a.jobs)
    (halarm : i.isAlarm = false) (j : Job K) : [i, j].Sublist (a.queue j).jobs := by
  have hmem : i ∈ a.turn ++ a.queued := by
    obtain hmem | hmem := List.mem_append.mp hi
    · exact hmem
    · obtain ⟨x, hx, rfl⟩ := List.mem_map.mp hmem
      rw [h.alarms x hx] at halarm
      cases halarm
  have hpair : [i, j].Sublist ((a.turn ++ a.queued) ++ [j]) :=
    (List.singleton_sublist.mpr hmem).append (.refl [j])
  rw [List.append_assoc] at hpair
  exact hpair.trans (List.sublist_append_left _ _)

end Agenda

namespace Board

variable {R C K : Type} {b c : Board R C K} {u i : Nat} {off off' : Option Nat}

/-- A pair of jobs stays in its order while another one is taken up. -/
theorem pair_sublist_of_next? {j k l : Job K} (h : [j, k].Sublist b.jobs)
    (hnext : b.next? = some (l, c)) (hne : l ≠ j) : [j, k].Sublist c.jobs := by
  rw [jobs_of_next? hnext] at h
  cases h with
  | cons _ h => exact h
  | cons_cons => exact absurd rfl hne

/-- How many ends an activity has still to count. -/
def awaited (u : Nat) (b : Board R C K) : Nat := (b.phase? u).elim 0 Phase.awaited

/-- How many ends are going to be counted by an activity: those that have come, and those to come. -/
def expected (u : Nat) (b : Board R C K) : Nat := b.load (Activity.owes u) (Job.isCountOf u)

/-- Everybody has a job but those that wait for others, and perhaps one more. -/
def IsManned (off : Option Nat) (b : Board R C K) : Prop :=
  ∀ a ∈ b.activities, some a.id ≠ off → ∀ j, a.job? = some j → j ∈ b.jobs

/-- Everybody has a job, perhaps but for one, and but for the one that waits for others. Nobody watches
that one. -/
structure IsStaffed (u : Nat) (off : Option Nat) (b : Board R C K) : Prop where
  sound : b.IsSound
  rostered : b.IsRostered
  tidy : b.agenda.IsTidy
  manned : ∀ a ∈ b.activities, some a.id ≠ off → ∀ j, a.job? = some j → j ∈ b.jobs
  alone : ∀ a ∈ b.activities, a.id ≠ u → a.job? (K := K) ≠ none
  unwatched : ∀ a ∈ b.activities, a.id = u → u ∉ a.watchers

/-- The one that waits does so for all others, and for as many ends as are going to be counted. The end
of another that is over is noticed before the last end is counted. -/
structure Gathers (u : Nat) (off : Option Nat) (b : Board R C K) : Prop extends IsStaffed u off b where
  tally : b.expected u = b.awaited u
  positive : ∀ next, b.phase? u ≠ some (.waiting 0 next)
  watched : 0 < b.awaited u → ∀ a ∈ b.activities, a.id ≠ u → a.isOver = false → u ∈ a.watchers
  reported : 0 < b.awaited u → ∀ a ∈ b.activities, a.id ≠ u → some a.id ≠ off → a.isOver = true →
    [.ended a.id, .count u].Sublist b.jobs

/-! ## How it stands with the activities -/

theorem awaited_of_phase? {p : Phase C} (h : b.phase? u = some p) : b.awaited u = p.awaited := by
  unfold awaited
  rw [h]
  rfl

theorem awaited_congr (h : c.phase? u = b.phase? u) : c.awaited u = b.awaited u := by
  rw [awaited, h, awaited]

theorem awaited_eq_zero (h : ∀ n next, b.phase? u ≠ some (.waiting n next)) : b.awaited u = 0 := by
  unfold awaited
  cases hp : b.phase? u with
  | none => rfl
  | some p => cases p with
    | waiting n next => exact absurd hp (h n next)
    | _ => rfl

theorem exists_of_awaited_pos (h : 0 < b.awaited u) :
    ∃ n next, b.phase? u = some (.waiting n next) ∧ b.awaited u = n := by
  by_contra hnone
  refine absurd (awaited_eq_zero fun n next hp => hnone ⟨n, next, hp, awaited_of_phase? hp⟩) ?_
  exact Nat.ne_of_gt h

theorem find?_of_phase? {p : Phase C} (h : b.phase? i = some p) :
    ∃ a, b.find? i = some a ∧ a ∈ b.activities ∧ a.id = i ∧ a.phase = p := by
  obtain ⟨a, ha, rfl⟩ := Option.map_eq_some_iff.mp h
  exact ⟨a, ha, List.mem_of_find?_eq_some ha, by simpa using List.find?_some ha, rfl⟩

theorem IsSound.phase?_of_mem (h : b.IsSound) {a : Activity R C} (ha : a ∈ b.activities) :
    b.phase? a.id = some a.phase := by
  obtain ⟨x, hx⟩ : ∃ x, b.find? a.id = some x :=
    Option.isSome_iff_exists.mp (List.find?_isSome.mpr ⟨a, ha, by simp⟩)
  have hid : x.id = a.id := by simpa using List.find?_some hx
  rw [phase?, hx, h.activity_eq (List.mem_of_find?_eq_some hx) ha hid]
  rfl

/-- Another phase of one activity. -/
theorem mem_setPhase {q : Phase C} {x : Activity R C} (hx : x ∈ (b.setPhase i q).activities) :
    (x ∈ b.activities ∧ x.id ≠ i) ∨ ∃ a ∈ b.activities, a.id = i ∧ x = { a with phase := q } := by
  obtain ⟨a, ha, rfl⟩ := List.mem_map.mp hx
  split
  case isTrue hid => exact .inr ⟨a, ha, hid, rfl⟩
  case isFalse hid => exact .inl ⟨ha, hid⟩

theorem mem_remove {x : Activity R C} (hx : x ∈ (b.remove i).activities) :
    x ∈ b.activities ∧ x.id ≠ i := by
  simpa using List.mem_filter.mp hx

theorem mem_spawn {role : R} {next : C} {x : Activity R C}
    (hx : x ∈ (b.spawn role next).activities) :
    x ∈ b.activities ∨ x = { id := b.nextId, role, phase := .ready next } := by
  simpa [spawn] using hx

theorem owes_le_expected {a : Activity R C} (ha : a ∈ b.activities) : a.owes u ≤ b.expected u := by
  obtain ⟨before, after, hsplit⟩ := List.append_of_mem ha
  unfold expected load
  rw [hsplit, List.map_append, List.map_cons, List.sum_append, List.sum_cons]
  omega

/-- The phase of an activity that goes on does not matter. -/
theorem IsSound.expected_setPhase (h : b.IsSound) {p q : Phase C} (hphase : b.phase? i = some p)
    (hp : p.plan? ≠ none) (hq : q.plan? ≠ none) : (b.setPhase i q).expected u = b.expected u := by
  obtain ⟨a, -, ha, rfl, rfl⟩ := find?_of_phase? hphase
  have hload := h.load_setPhase (w := Activity.owes u) (p := Job.isCountOf u) ha q
  have hsame : Activity.owes u { a with phase := q } = a.owes u := by
    have hlive : a.isOver = false :=
      Bool.eq_false_iff.mpr fun hover => hp (Activity.isOver_iff.mp hover)
    have hqlive : Activity.isOver { a with phase := q } = false :=
      Bool.eq_false_iff.mpr fun hover => hq (Activity.isOver_iff.mp hover)
    unfold Activity.owes
    rw [hlive, hqlive]
  unfold expected
  omega

/-- A job that is taken up may be an end that is counted. -/
theorem expected_next {j : Job K} (hnext : b.next? = some (j, c)) :
    b.expected u = c.expected u + if j.isCountOf u then 1 else 0 := by
  refine (load_of_next? hnext).trans ?_
  rw [List.countP_singleton]
  rfl

/-- One that goes on gets into another phase, and a job that counts nothing comes up. -/
theorem IsSound.expected_change (h : b.IsSound) {p q : Phase C} (hphase : b.phase? i = some p)
    (hp : p.plan? ≠ none) (hq : q.plan? ≠ none) {j : Job K}
    (hactivities : c.activities = (b.setPhase i q).activities) (hjobs : c.jobs.Perm (j :: b.jobs))
    (hcount : j.isCountOf u = false) : c.expected u = b.expected u := by
  have hperm : c.jobs.Perm ([j] ++ (b.setPhase i q).jobs) := hjobs
  have hmore := load_of_perm (w := Activity.owes u) (p := Job.isCountOf u) hactivities hperm
  rw [List.countP_singleton, if_neg (by simp [hcount])] at hmore
  exact hmore.trans (h.expected_setPhase hphase hp hq)

/-- The ends that one owes are to be counted once it has ended. -/
theorem IsSound.expected_finish (h : b.IsSound) {p : Phase C} (hphase : b.phase? i = some p)
    (hp : p.plan? ≠ none) (failure : Option Failure) :
    (b.finish i failure).expected u = b.expected u := by
  obtain ⟨a, hfind, -, rfl, rfl⟩ := find?_of_phase? hphase
  have hlive : a.isOver = false :=
    Bool.eq_false_iff.mpr fun hover => hp (Activity.isOver_iff.mp hover)
  have hload := h.load_finish (w := Activity.owes u) (p := Job.isCountOf u) hfind failure
  have hcounts : (.ended a.id :: a.watchers.map .count : List (Job K)).countP (Job.isCountOf u) =
      a.watchers.count u := by
    rw [List.countP_cons_of_neg (by simp [Job.isCountOf]), List.countP_map]
    rfl
  have howes : a.owes u = a.watchers.count u := by simp [Activity.owes, hlive]
  have hnone : Activity.owes u ({ a with phase := .over failure } : Activity R C) = 0 := rfl
  unfold expected
  omega

/-- One that is over owes nothing any more. -/
theorem IsSound.expected_remove (h : b.IsSound)
    (hover : ∀ a ∈ b.activities, a.id = i → a.isOver = true) :
    (b.remove i).expected u = b.expected u := by
  by_cases hi : ∃ a ∈ b.activities, a.id = i
  · obtain ⟨a, ha, rfl⟩ := hi
    have hload := h.load_remove (w := Activity.owes u) (p := Job.isCountOf u) ha
    have hnone : a.owes u = 0 := if_pos (hover a ha rfl)
    unfold expected
    omega
  · have hsame : b.remove i = b := by
      unfold Board.remove
      rw [List.filter_eq_self.mpr fun a ha => by simpa using fun hid => hi ⟨a, ha, hid⟩]
    rw [hsame]

/-- Nobody waits for one that comes. -/
theorem expected_spawn (b : Board R C K) (u : Nat) (role : R) (next : C) :
    (b.spawn role next).expected u = b.expected u := by
  have hload := load_spawn (b := b) (w := Activity.owes u) (p := Job.isCountOf u) role next
  have hnew : Activity.owes u ({ id := b.nextId, role, phase := .ready next } : Activity R C) = 0 :=
    rfl
  have hrun : [Job.run (K := K) b.nextId].countP (Job.isCountOf u) = 0 := rfl
  unfold expected
  omega

/-- As the board was, but that some have been watched by one who is none of them. -/
structure Attends (u : Nat) (b c : Board R C K) : Prop where
  origin : ∀ x ∈ c.activities, ∃ y ∈ b.activities, y.id = x.id ∧ y.phase = x.phase ∧
    (u ∈ y.watchers → u ∈ x.watchers) ∧ (x.id = u → x.watchers = y.watchers)
  jobs : b.jobs.Sublist c.jobs

theorem Attends.refl (b : Board R C K) : Attends u b b :=
  ⟨fun x hx => ⟨x, hx, rfl, rfl, id, fun _ => rfl⟩, .refl _⟩

theorem Attends.trans {d : Board R C K} (h : Attends u b c) (h' : Attends u c d) :
    Attends u b d := by
  refine ⟨fun x hx => ?_, h.jobs.trans h'.jobs⟩
  obtain ⟨y, hy, hid, hphase, hwatch, hsame⟩ := h'.origin x hx
  obtain ⟨z, hz, hid', hphase', hwatch', hsame'⟩ := h.origin y hy
  exact ⟨z, hz, hid'.trans hid, hphase'.trans hphase, hwatch ∘ hwatch',
    fun hu => (hsame hu).trans (hsame' (hid.trans hu))⟩

theorem Attends.watch {other : Activity R C} (hne : other.id ≠ u) :
    Attends u b (watch u b other) := by
  unfold Board.watch
  split
  · exact ⟨(Attends.refl b).origin, Agenda.sublist_queue b.agenda (.count u)⟩
  · refine ⟨fun x hx => ?_, .refl _⟩
    obtain ⟨y, hy, rfl⟩ := List.mem_map.mp hx
    split
    case isTrue hid =>
      exact ⟨y, hy, rfl, rfl, List.mem_append_left _, fun hu => absurd (hid.symm.trans hu) hne⟩
    case isFalse => exact ⟨y, hy, rfl, rfl, id, fun _ => rfl⟩

theorem Attends.watchAll {others : List (Activity R C)} (hne : ∀ o ∈ others, o.id ≠ u) :
    Attends u b (others.foldl (Board.watch u) b) := by
  induction others generalizing b with
  | nil => exact .refl b
  | cons o os ih =>
    obtain ⟨ho, hos⟩ := List.forall_mem_cons.mp hne
    exact (Attends.watch ho).trans (ih hos)

/-- Who has not ended is watched. -/
theorem mem_watchers_watchAll {others : List (Activity R C)} (hne : ∀ o ∈ others, o.id ≠ u)
    {o : Activity R C} (ho : o ∈ others) (hlive : o.isOver = false) {x : Activity R C}
    (hx : x ∈ (others.foldl (watch u) b).activities) (hid : x.id = o.id) : u ∈ x.watchers := by
  induction others generalizing b with
  | nil => cases ho
  | cons p ps ih =>
    have hnes := (List.forall_mem_cons.mp hne).2
    obtain rfl | ho := List.mem_cons.mp ho
    · obtain ⟨y, hy, hyid, -, hwatch, -⟩ := (Attends.watchAll hnes).origin x hx
      refine hwatch ?_
      unfold watch at hy
      rw [if_neg (by simp [hlive])] at hy
      obtain ⟨z, -, rfl⟩ := List.mem_map.mp hy
      split at hyid
      case isTrue heq =>
        rw [if_pos heq]
        simp
      case isFalse heq => exact absurd (hyid.trans hid) heq
    · exact ih hnes ho hx

/-- The end of one who has ended is counted behind it. -/
theorem pair_sublist_watchAll (htidy : b.agenda.IsTidy) {others : List (Activity R C)}
    (hne : ∀ o ∈ others, o.id ≠ u) {o : Activity R C} (ho : o ∈ others) (hover : o.isOver = true)
    (hended : .ended o.id ∈ b.jobs) :
    [.ended o.id, .count u].Sublist (others.foldl (watch u) b).jobs := by
  induction others generalizing b with
  | nil => cases ho
  | cons p ps ih =>
    obtain ⟨hp, hps⟩ := List.forall_mem_cons.mp hne
    obtain rfl | ho := List.mem_cons.mp ho
    · refine .trans ?_ (Attends.watchAll hps).jobs
      unfold watch
      rw [if_pos hover]
      exact Agenda.pair_sublist_queue htidy hended rfl (.count u)
    · refine ih ?_ hps ho ((Attends.watch hp).jobs.subset hended)
      unfold watch
      split
      · exact Agenda.isTidy_queue htidy rfl
      · exact htidy

theorem sublist_queueAll (js : List (Job K)) (b : Board R C K) :
    b.jobs.Sublist (b.queueAll js).jobs := by
  refine queueAll_induction (motive := fun c => b.jobs.Sublist c.jobs) (.refl _) fun c j _ hc => ?_
  exact hc.trans (Agenda.sublist_queue c.agenda j)

theorem sublist_queueAll_self (js : List (Job K)) (b : Board R C K) :
    js.Sublist (b.queueAll js).jobs := by
  have hagenda : (b.queueAll js).agenda = { b.agenda with queued := b.agenda.queued ++ js } := by
    induction js generalizing b with
    | nil => simp [queueAll]
    | cons j js ih =>
      refine (ih (b.queue j)).trans ?_
      simp [queue, Agenda.queue]
  unfold jobs Agenda.jobs
  rw [hagenda]
  exact ((List.sublist_append_right _ js).trans (List.sublist_append_right _ _)).trans
    (List.sublist_append_left _ _)

theorem sublist_finish (b : Board R C K) (i : Nat) (failure : Option Failure) :
    b.jobs.Sublist (b.finish i failure).jobs := by
  unfold finish
  exact sublist_queueAll _ (b.setPhase i (.over failure))

/-! ## Everybody keeps having a job -/

namespace IsManned

theorem next (h : IsManned none b) {j : Job K} (hnext : b.next? = some (j, c)) :
    IsManned j.about? c := by
  intro x hx hoff i hi
  rw [activities_of_next? hnext] at hx
  have hmem := h x hx (by simp) i hi
  rw [jobs_of_next? hnext] at hmem
  obtain rfl | hmem := List.mem_cons.mp hmem
  · exact absurd (Activity.about?_of_job? hi).symm hoff
  · exact hmem

/-- One gets into another phase, and if there is a job for that, gets that job. -/
theorem change (h : IsManned off b) (hoff : off = none ∨ off = some i) {q : Phase C}
    (hactivities : c.activities = (b.setPhase i q).activities) (hsub : b.jobs.Sublist c.jobs)
    (hq : ∀ a : Activity R C, a.id = i → ∀ j, Activity.job? { a with phase := q } = some j → j ∈ c.jobs) :
    IsManned none c := by
  intro x hx _ j hj
  rw [hactivities] at hx
  obtain ⟨hx, hid⟩ | ⟨y, -, hid, rfl⟩ := mem_setPhase hx
  · refine hsub.subset (h x hx ?_ j hj)
    obtain rfl | rfl := hoff
    · simp
    · simpa using hid
  · exact hq y hid j hj

theorem goOn (h : IsManned off b) (hoff : off = none ∨ off = some i) (next : C) :
    IsManned none ((b.setPhase i (.ready next)).queue (.run i)) := by
  refine h.change hoff (q := .ready next) rfl (Agenda.sublist_queue b.agenda (.run i)) ?_
  rintro a rfl j hj
  cases hj
  exact (jobs_queue (b.setPhase a.id (.ready next)) (.run a.id)).mem_iff.mpr List.mem_cons_self

/-- Who waits for others needs no job. -/
theorem waitOn (h : IsManned off b) (hoff : off = none ∨ off = some i) (n : Nat) (next : C) :
    IsManned none (b.setPhase i (.waiting n next)) :=
  h.change hoff (q := .waiting n next) rfl (.refl _) fun _ _ _ hj => by cases hj

theorem sleep (h : IsManned (some i) b) (time : Nat) (next : C) :
    IsManned none (b.sleep i time next) := by
  refine h.change (.inr rfl) (q := .asleep next) rfl (Agenda.sublist_arm b.agenda time (.wake i)) ?_
  rintro a rfl j hj
  cases hj
  exact (Agenda.jobs_arm b.agenda time (.wake a.id)).mem_iff.mpr List.mem_cons_self

theorem finish (h : IsManned (some i) b) (failure : Option Failure) :
    IsManned none (b.finish i failure) := by
  refine h.change (.inr rfl) (q := .over failure) (activities_queueAll _ _)
    (sublist_finish b i failure) ?_
  rintro a rfl j hj
  cases hj
  exact (sublist_queueAll_self _ _).subset List.mem_cons_self

theorem remove (h : IsManned (some i) b) : IsManned none (b.remove i) :=
  fun x hx _ => h x (mem_remove hx).1 (by simpa using (mem_remove hx).2)

theorem spawn (h : IsManned off b) (role : R) (next : C) : IsManned off (b.spawn role next) := by
  intro x hx hoff j hj
  obtain hx | rfl := mem_spawn hx
  · exact (Agenda.sublist_queue b.agenda (.run b.nextId)).subset (h x hx hoff j hj)
  · cases hj
    exact (jobs_queue b (.run b.nextId)).mem_iff.mpr List.mem_cons_self

end IsManned

namespace IsStaffed

theorem next (h : IsStaffed u none b) {j : Job K} (hnext : b.next? = some (j, c)) :
    IsStaffed u j.about? c := by
  have hactivities := activities_of_next? hnext
  have hmanned := IsManned.next h.manned hnext
  obtain ⟨⟨k, a⟩, hagenda, heq⟩ := Option.map_eq_some_iff.mp hnext
  refine ⟨h.sound.retimed (retimed_of_next? hnext), (h.rostered.next hnext).1, ?_, hmanned, ?_, ?_⟩
  · cases heq
    exact (Agenda.later_of_next? h.tidy hagenda).2.1
  · rw [hactivities]
    exact h.alone
  · rw [hactivities]
    exact h.unwatched

/-- One gets into another phase, and everybody still has a job. -/
theorem change (h : IsStaffed u off b) (hmanned : IsManned none c) {q : Phase C}
    (hactivities : c.activities = (b.setPhase i q).activities)
    (halone : i ≠ u → ∀ a : Activity R C, Activity.job? (K := K) { a with phase := q } ≠ none)
    (hsound : c.IsSound) (hrostered : c.IsRostered) (htidy : c.agenda.IsTidy) :
    IsStaffed u none c := by
  refine ⟨hsound, hrostered, htidy, hmanned, ?_, ?_⟩
  · intro x hx hne
    rw [hactivities] at hx
    obtain ⟨hx, -⟩ | ⟨y, -, hid, rfl⟩ := mem_setPhase hx
    · exact h.alone x hx hne
    · exact halone (fun hiu => hne (hid.trans hiu)) y
  · intro x hx hid
    rw [hactivities] at hx
    obtain ⟨hx, -⟩ | ⟨y, hy, -, rfl⟩ := mem_setPhase hx
    · exact h.unwatched x hx hid
    · exact h.unwatched y hy hid

/-- One that has no job is woken, or has counted enough. -/
theorem goOn (h : IsStaffed u off b) (hoff : off = none ∨ off = some i) {p : Phase C} {next : C}
    (hphase : b.phase? i = some p) (hp : p.plan? = some next) (hfree : i ∉ b.goers) :
    IsStaffed u none ((b.setPhase i (.ready next)).queue (.run i)) := by
  obtain ⟨role, htask⟩ := IsSound.task_of_phase? hphase
  have hadds : AddsTurns b ((b.setPhase i (.ready next)).queue (.run i)) :=
    .cons (jobs_queue (b.setPhase i (.ready next)) (.run i)) rfl
  exact h.change (IsManned.goOn h.manned hoff next) (q := .ready next) rfl (by simp [Activity.job?])
    (h.sound.wait htask (by simp [hp]) (tasks_setPhase b i (.ready next)) rfl hadds)
    (h.rostered.goOn hfree hphase next) (Agenda.isTidy_queue h.tidy rfl)

theorem sleep (h : IsStaffed u (some i) b) {p : Phase C} (hphase : b.phase? i = some p)
    (hp : p.plan? ≠ none) (hfree : i ∉ b.goers) (time : Nat) (next : C) :
    IsStaffed u none (b.sleep i time next) := by
  obtain ⟨role, htask⟩ := IsSound.task_of_phase? hphase
  exact h.change (IsManned.sleep h.manned time next) (q := .asleep next) rfl (by simp [Activity.job?])
    (h.sound.wait htask hp (tasks_sleep b i time next) rfl (addsTurns_sleep b i time next))
    (h.rostered.sleep hfree hphase time next) (Agenda.isTidy_arm h.tidy time rfl)

theorem finish (h : IsStaffed u (some i) b) {p : Phase C} (hphase : b.phase? i = some p)
    (hfree : i ∉ b.goers) (failure : Option Failure) : IsStaffed u none (b.finish i failure) := by
  obtain ⟨role, htask⟩ := IsSound.task_of_phase? hphase
  exact h.change (IsManned.finish h.manned failure) (q := .over failure) (activities_queueAll _ _)
    (by simp [Activity.job?]) (h.sound.finish htask failure) (h.rostered.finish hfree failure)
    (isTidy_finish h.tidy i failure)

/-- One leaves. -/
theorem remove (h : IsStaffed u (some i) b) (hfree : i ∉ b.goers) :
    IsStaffed u none (b.remove i) := by
  refine ⟨h.sound.remove i, h.rostered.remove hfree, h.tidy, IsManned.remove h.manned,
    fun x hx => ?_, fun x hx => ?_⟩
  · exact h.alone x (mem_remove hx).1
  · exact h.unwatched x (mem_remove hx).1

theorem spawn (h : IsStaffed u none b) (role : R) (next : C) :
    IsStaffed u none (b.spawn role next) := by
  refine ⟨h.sound.spawn role next, h.rostered.spawn h.sound role next,
    Agenda.isTidy_queue h.tidy rfl, IsManned.spawn h.manned role next, fun x hx => ?_, fun x hx => ?_⟩
  · obtain hx | rfl := mem_spawn hx
    · exact h.alone x hx
    · simp [Activity.job?]
  · obtain hx | rfl := mem_spawn hx
    · exact h.unwatched x hx
    · simp

end IsStaffed

/-! ## All ends are counted -/

namespace Gathers

/-- It stands with the one that waits as before: there is only to see to those it waits for. -/
theorem of_phase? (h : Gathers u off' b) (hc : IsStaffed u off c) (hphase : c.phase? u = b.phase? u)
    (hexpected : c.expected u = b.expected u)
    (hwatched : 0 < b.awaited u → ∀ a ∈ c.activities, a.id ≠ u → a.isOver = false → u ∈ a.watchers)
    (hreported : 0 < b.awaited u → ∀ a ∈ c.activities, a.id ≠ u → some a.id ≠ off →
      a.isOver = true → [.ended a.id, .count u].Sublist c.jobs) : Gathers u off c := by
  have hawaited := awaited_congr hphase
  refine { hc with tally := ?tally, positive := ?positive, watched := ?watched, reported := ?reported }
  case tally =>
    rw [hexpected, hawaited, h.tally]
  case positive =>
    rw [hphase]
    exact h.positive
  case watched =>
    rw [hawaited]
    exact hwatched
  case reported =>
    rw [hawaited]
    exact hreported

/-- Nobody waits. -/
theorem of_idle (h : IsStaffed u off b) (hidle : ∀ n next, b.phase? u ≠ some (.waiting n next))
    (hzero : b.expected u = 0) : Gathers u off b := by
  have hawaited := awaited_eq_zero hidle
  refine ⟨h, hzero.trans hawaited.symm, hidle 0, fun hpos => ?_, fun hpos => ?_⟩ <;>
    exact absurd hawaited (Nat.ne_of_gt hpos)

/-- A job that counts nothing for the one that waits is taken up. -/
theorem next (h : Gathers u none b) {j : Job K} (hnext : b.next? = some (j, c))
    (hj : j.isCountOf u = false) : Gathers u j.about? c := by
  have hactivities := activities_of_next? hnext
  have hexpected := expected_next (u := u) hnext
  rw [hj, if_neg (by simp), Nat.add_zero] at hexpected
  refine h.of_phase? (h.toIsStaffed.next hnext) (phase?_of_activities hactivities u) hexpected.symm
    ?_ ?_
  · rw [hactivities]
    exact h.watched
  · rw [hactivities]
    intro hwait x hx hne hoff hover
    refine pair_sublist_of_next? (h.reported hwait x hx hne (by simp) hover) hnext ?_
    rintro rfl
    exact hoff rfl

/-- One that does not wait goes on, or begins to sleep. -/
theorem change (h : Gathers u (some i) b) (hc : IsStaffed u none c) {p q : Phase C} {j : Job K}
    (hphase : b.phase? i = some p) (hp : p.plan? ≠ none) (hwait : p.awaited = 0)
    (hq : q.plan? ≠ none) (hwait' : ∀ n next, q ≠ .waiting n next)
    (hactivities : c.activities = (b.setPhase i q).activities) (hjobs : c.jobs.Perm (j :: b.jobs))
    (hsub : b.jobs.Sublist c.jobs) (hcount : j.isCountOf u = false) : Gathers u none c := by
  obtain ⟨a, -, ha, rfl, rfl⟩ := find?_of_phase? hphase
  have hphase' (k : Nat) : c.phase? k = (b.setPhase a.id q).phase? k :=
    phase?_of_activities hactivities k
  have hlive : a.isOver = false := Bool.eq_false_iff.mpr fun hover => hp (Activity.isOver_iff.mp hover)
  have hqlive : Activity.isOver { a with phase := q } = false :=
    Bool.eq_false_iff.mpr fun hover => hq (Activity.isOver_iff.mp hover)
  have hexpected : c.expected u = b.expected u :=
    h.sound.expected_change hphase hp hq hactivities hjobs hcount
  by_cases hau : a.id = u
  · have hself : c.phase? u = some q := by
      rw [← hau, hphase', phase?_setPhase, if_pos rfl, hphase]
      rfl
    refine of_idle hc (fun n next hnone => ?_) ?_
    · rw [hself] at hnone
      cases hnone
      exact hwait' n next rfl
    · rw [hexpected, h.tally, ← hau, awaited_of_phase? hphase, hwait]
  · have hother : c.phase? u = b.phase? u := by
      rw [hphase', phase?_setPhase_of_ne b q (Ne.symm hau)]
    refine h.of_phase? hc hother hexpected ?_ ?_
    · intro hpos x hx hne hover
      rw [hactivities] at hx
      obtain ⟨hx, -⟩ | ⟨y, hy, hid, rfl⟩ := mem_setPhase hx
      · exact h.watched hpos x hx hne hover
      · obtain rfl := h.sound.activity_eq hy ha hid
        exact h.watched hpos y hy hne hlive
    · intro hpos x hx hne _ hover
      rw [hactivities] at hx
      obtain ⟨hx, hid⟩ | ⟨y, hy, hid, rfl⟩ := mem_setPhase hx
      · exact (h.reported hpos x hx hne (by simpa using hid) hover).trans hsub
      · obtain rfl := h.sound.activity_eq hy ha hid
        rw [hqlive] at hover
        cases hover

theorem wake (h : Gathers u (some i) b) {next : C} (hphase : b.phase? i = some (.asleep next))
    (hfree : i ∉ b.goers) : Gathers u none (b.wake i) := by
  have hstaffed := h.goOn (.inr rfl) hphase rfl hfree
  have hwake : b.wake i = (b.setPhase i (.ready next)).queue (.run i) := by
    unfold Board.wake
    rw [hphase]
  rw [hwake]
  exact h.change hstaffed hphase (by simp [Phase.plan?]) rfl (q := .ready next) (by simp [Phase.plan?])
    (by simp) rfl (jobs_queue (b.setPhase i (.ready next)) (.run i))
    (Agenda.sublist_queue b.agenda (.run i)) rfl

theorem sleep (h : Gathers u (some i) b) {next : C} (hphase : b.phase? i = some (.ready next))
    (hfree : i ∉ b.goers) (time : Nat) (next' : C) : Gathers u none (b.sleep i time next') :=
  h.change (h.toIsStaffed.sleep hphase (by simp [Phase.plan?]) hfree time next') hphase
    (by simp [Phase.plan?]) rfl (q := .asleep next') (by simp [Phase.plan?]) (by simp) rfl
    (Agenda.jobs_arm b.agenda time (.wake i)) (Agenda.sublist_arm b.agenda time (.wake i)) rfl

theorem finish (h : Gathers u (some i) b) {next : C} (hphase : b.phase? i = some (.ready next))
    (hfree : i ∉ b.goers) (failure : Option Failure) : Gathers u none (b.finish i failure) := by
  have hc := h.toIsStaffed.finish hphase hfree failure
  obtain ⟨a, hfind, ha, rfl, hready⟩ := find?_of_phase? hphase
  have hlive : a.isOver = false := by simp [Activity.isOver, hready]
  have hactivities : (b.finish a.id failure).activities = (b.setPhase a.id (.over failure)).activities :=
    activities_queueAll _ _
  have hexpected : (b.finish a.id failure).expected u = b.expected u :=
    h.sound.expected_finish hphase (by simp [Phase.plan?]) failure
  by_cases hau : a.id = u
  · have hself : (b.finish a.id failure).phase? u = some (.over failure) := by
      rw [← hau, phase?_of_activities hactivities, phase?_setPhase, if_pos rfl, hphase]
      rfl
    refine of_idle hc (fun n next hnone => ?_) ?_
    · rw [hself] at hnone
      cases hnone
    · rw [hexpected, h.tally, ← hau, awaited_of_phase? hphase]
      rfl
  · have hother := phase?_finish b failure (Ne.symm hau)
    refine h.of_phase? hc hother hexpected ?_ ?_
    · intro hpos x hx hne hover
      rw [hactivities] at hx
      obtain ⟨hx, -⟩ | ⟨y, -, -, rfl⟩ := mem_setPhase hx
      · exact h.watched hpos x hx hne hover
      · cases hover
    · intro hpos x hx hne _ hover
      rw [hactivities] at hx
      obtain ⟨hx, hid⟩ | ⟨y, hy, hid, rfl⟩ := mem_setPhase hx
      · exact (h.reported hpos x hx hne (by simpa using hid) hover).trans (sublist_finish b _ failure)
      · -- it is the one that ends now, and its end is counted right behind
        obtain rfl := h.sound.activity_eq hy ha hid
        have hmem := List.mem_map_of_mem (f := Job.count (K := K)) (h.watched hpos y hy hne hlive)
        refine ((List.singleton_sublist.mpr hmem).cons_cons (.ended y.id)).trans ?_
        unfold Board.finish
        rw [hfind]
        exact sublist_queueAll_self _ _

/-- One that is over leaves. -/
theorem leave (h : Gathers u (some i) b) (hover : ∀ a ∈ b.activities, a.id = i → a.isOver = true)
    (hfree : i ∉ b.goers) : Gathers u none (b.remove i) := by
  have hexpected : (b.remove i).expected u = b.expected u := h.sound.expected_remove hover
  have hc := h.toIsStaffed.remove hfree
  by_cases hu : u = i
  · have hover' (n : Nat) (next : C) : b.phase? u ≠ some (.waiting n next) := by
      intro hp
      obtain ⟨x, -, hx, hid, hwait⟩ := find?_of_phase? hp
      have hplan := Activity.isOver_iff.mp (hover x hx (hid.trans hu))
      rw [hwait] at hplan
      cases hplan
    refine of_idle hc (fun n next hp => ?_) ?_
    · obtain ⟨x, -, hx, hid, -⟩ := find?_of_phase? hp
      exact (mem_remove hx).2 (hid.trans hu)
    · rw [hexpected, h.tally, awaited_eq_zero hover']
  · have hother := phase?_remove b hu
    refine h.of_phase? hc hother hexpected ?_ ?_
    · exact fun hpos x hx => h.watched hpos x (mem_remove hx).1
    · exact fun hpos x hx hne _ =>
        h.reported hpos x (mem_remove hx).1 hne (by simpa using (mem_remove hx).2)

/-- Another one comes while nobody waits. -/
theorem spawn (h : Gathers u none b) (hwait : b.awaited u = 0) (role : R) (next : C) :
    Gathers u none (b.spawn role next) := by
  refine of_idle (h.toIsStaffed.spawn role next) (fun n next' hp => ?_) ?_
  · obtain ⟨x, -, hx, rfl, hphase⟩ := find?_of_phase? hp
    obtain hx | rfl := mem_spawn hx
    · have hphase' := h.sound.phase?_of_mem hx
      rw [hphase] at hphase'
      rw [awaited_of_phase? hphase'] at hwait
      obtain rfl : n = 0 := hwait
      exact h.positive next' hphase'
    · cases hphase
  · rw [expected_spawn, h.tally, hwait]

/-- The one that waits for all others. -/
theorem await (h : Gathers u (some u) b) {next : C} (hphase : b.phase? u = some (.ready next))
    (hfree : u ∉ b.goers) {others : List (Activity R C)} (hsome : others ≠ [])
    (hothers : ∀ x, x ∈ others ↔ x ∈ b.activities ∧ x.id ≠ u) (next' : C) :
    Gathers u none (b.await u others next') := by
  obtain ⟨a, -, ha, rfl, hready⟩ := find?_of_phase? hphase
  obtain ⟨role, htask⟩ := IsSound.task_of_phase? hphase
  have hne (o : Activity R C) (ho : o ∈ others) : o.id ≠ a.id := ((hothers o).mp ho).2
  have hattends : Attends a.id (b.setPhase a.id (.waiting others.length next'))
      (b.await a.id others next') := .watchAll hne
  have hself := phase?_await_self hphase others next'
  have hawaited : (b.await a.id others next').awaited a.id = others.length := awaited_of_phase? hself
  have horigin {x : Activity R C} (hx : x ∈ (b.await a.id others next').activities)
      (hid : x.id ≠ a.id) : ∃ y ∈ others, y.id = x.id ∧ y.phase = x.phase := by
    obtain ⟨y, hy, hyid, hyphase, -⟩ := hattends.origin x hx
    obtain ⟨hy, hyne⟩ | ⟨z, -, hzid, rfl⟩ := mem_setPhase hy
    · exact ⟨y, (hothers y).mpr ⟨hy, hyne⟩, hyid, hyphase⟩
    · exact absurd (hyid.symm.trans hzid) hid
  have hjob {x y : Activity R C} (hid : y.id = x.id) (hp : y.phase = x.phase) :
      x.job? (K := K) = y.job? := by
    unfold Activity.job?
    rw [hid, hp]
  have hmanned {x : Activity R C} (hx : x ∈ others) {j : Job K} (hj : x.job? = some j) :
      j ∈ b.jobs :=
    h.manned x ((hothers x).mp hx).1 (by simpa using hne x hx) j hj
  have hsound : (b.await a.id others next').IsSound :=
    h.sound.wait htask (by simp [Phase.plan?]) (tasks_await b a.id others next')
      (nextId_await b a.id others next') (addsTurns_await b a.id others next')
  refine {
    sound := hsound
    rostered := h.rostered.await hfree others next'
    tidy := isTidy_await h.tidy a.id others next'
    manned := ?manned
    alone := ?alone
    unwatched := ?unwatched
    tally := ?tally
    positive := ?positive
    watched := ?watched
    reported := ?reported }
  case manned =>
    intro x hx _ j hj
    by_cases hid : x.id = a.id
    · have hwait := hsound.phase?_of_mem hx
      rw [hid, hself] at hwait
      unfold Activity.job? at hj
      rw [← Option.some.inj hwait] at hj
      cases hj
    · obtain ⟨y, hy, hyid, hyphase⟩ := horigin hx hid
      rw [hjob hyid hyphase] at hj
      exact hattends.jobs.subset (hmanned hy hj)
  case alone =>
    intro x hx hid
    obtain ⟨y, hy, hyid, hyphase⟩ := horigin hx hid
    rw [hjob hyid hyphase]
    exact h.alone y ((hothers y).mp hy).1 (hne y hy)
  case unwatched =>
    intro x hx hid
    obtain ⟨y, hy, hyid, -, -, hsame⟩ := hattends.origin x hx
    rw [hsame hid]
    obtain ⟨hy, hyne⟩ | ⟨z, hz, hzid, rfl⟩ := mem_setPhase hy
    · exact absurd (hyid.trans hid) hyne
    · exact h.unwatched z hz hzid
  case tally =>
    have hload := h.sound.load_await (w := Activity.owes a.id) (p := Job.isCountOf a.id) ha
      (by simp [hready, Phase.plan?]) (fun x hx => (hothers x).mp hx)
      (fun x _ hlive => Activity.owes_watched hlive) (by simp [Job.isCountOf]) next'
    have hnone : b.expected a.id = 0 := by
      rw [h.tally, awaited_of_phase? hphase]
      rfl
    have hsame : Activity.owes a.id { a with phase := .waiting others.length next' } = a.owes a.id := by
      simp [Activity.owes, Activity.isOver, hready]
    rw [hawaited]
    unfold expected at hnone ⊢
    omega
  case positive =>
    intro next'' hp
    rw [hself] at hp
    have hzero := (Phase.waiting.inj (Option.some.inj hp)).1
    exact hsome (List.length_eq_zero_iff.mp hzero)
  case watched =>
    intro _ x hx hid hover
    obtain ⟨y, hy, hyid, hyphase⟩ := horigin hx hid
    refine mem_watchers_watchAll hne hy ?_ hx hyid.symm
    unfold Activity.isOver at hover ⊢
    rwa [hyphase]
  case reported =>
    intro _ x hx hid _ hover
    obtain ⟨y, hy, hyid, hyphase⟩ := horigin hx hid
    have hyover : y.isOver = true := by
      unfold Activity.isOver at hover ⊢
      rwa [hyphase]
    rw [← hyid]
    refine pair_sublist_watchAll (b := b.setPhase a.id (.waiting others.length next')) h.tidy hne hy
      hyover (hmanned hy (Activity.job?_of_isOver hyover))

/-- The last end that was waited for is about to be counted: the others have left. -/
theorem eq_of_last (h : Gathers u none b) (hpos : 0 < b.awaited u)
    (hnext : b.next? = some (.count u, c)) (hzero : c.expected u = 0) :
    ∀ a ∈ c.activities, a.id = u := by
  intro a ha
  have ha' : a ∈ b.activities := activities_of_next? hnext ▸ ha
  by_contra hne
  cases hover : a.isOver with
  | false =>
    have hcount := List.count_pos_iff.mpr (h.watched hpos a ha' hne hover)
    have howes : a.owes u = a.watchers.count u := by simp [Activity.owes, hover]
    have hle := owes_le_expected (u := u) ha
    omega
  | true =>
    have hpair := pair_sublist_of_next? (h.reported hpos a ha' hne (by simp) hover) hnext (by simp)
    have hmem : .count u ∈ c.jobs := hpair.subset (by simp)
    have hcount : 0 < c.jobs.countP (Job.isCountOf u) :=
      List.countP_pos_iff.mpr ⟨_, hmem, by simp [Job.isCountOf]⟩
    unfold expected load at hzero
    omega

/-- An end is counted. After the last one, only the one that has waited is left. -/
theorem count (h : Gathers u none b) {k : Nat} (hnext : b.next? = some (.count k, c)) :
    Gathers u none (c.count k) ∧
      (0 < b.awaited u → (c.count k).awaited u = 0 → ∀ a ∈ (c.count k).activities, a.id = u) := by
  have hstaffed := h.toIsStaffed.next hnext
  have hphase := phase?_of_activities (activities_of_next? hnext) u
  have hawaited := awaited_congr hphase
  by_cases hku : k = u
  · subst hku
    have hless : c.expected k + 1 = b.awaited k := by
      rw [← h.tally, expected_next hnext, if_pos (by simp [Job.isCountOf])]
    have hpos : 0 < b.awaited k := by omega
    obtain ⟨n, next, hwait, hn⟩ := exists_of_awaited_pos hpos
    rw [← hphase] at hwait
    have hfree : k ∉ c.goers := hstaffed.rostered.not_mem_goers hwait (by simp) (by simp)
    have hsame (q : Phase C) (hq : q.plan? ≠ none) : (c.setPhase k q).expected k = c.expected k :=
      hstaffed.sound.expected_setPhase hwait (by simp [Phase.plan?]) hq
    have hself (q : Phase C) : (c.setPhase k q).phase? k = some q := by
      rw [phase?_setPhase, if_pos rfl, hwait]
      rfl
    have hcount : c.count k = if n ≤ 1 then (c.setPhase k (.ready next)).queue (.run k)
        else c.setPhase k (.waiting (n - 1) next) := by
      unfold Board.count
      rw [hwait]
    by_cases hlast : n ≤ 1
    · have hgone := h.eq_of_last hpos hnext (by omega)
      rw [hcount, if_pos hlast]
      refine ⟨of_idle (hstaffed.goOn (.inl rfl) hwait rfl hfree) (fun m next' hp => ?_) ?_, ?_⟩
      · change (c.setPhase k (.ready next)).phase? k = _ at hp
        rw [hself] at hp
        cases hp
      · have hqueue := load_queue (b := c.setPhase k (.ready next)) (w := Activity.owes k)
          (p := Job.isCountOf k) (.run k)
        refine hqueue.trans ?_
        exact (hsame (.ready next) (by simp [Phase.plan?])).trans (by omega)
      · intro _ _ a ha
        obtain ⟨ha, -⟩ | ⟨x, -, hid, rfl⟩ := mem_setPhase ha
        · exact hgone a ha
        · exact hid
    · have hsound : (c.count k).IsSound := hstaffed.sound.retimed ⟨hstaffed.sound.tasks_count k,
        nextId_count c k, fun _ hend => ((addsTurns_count c k).mem_iff rfl).mp hend⟩
      have hrostered := hstaffed.rostered.count k
      rw [hcount, if_neg hlast] at hsound hrostered ⊢
      have hawaited' : (c.setPhase k (.waiting (n - 1) next)).awaited k = n - 1 :=
        awaited_of_phase? (hself _)
      refine ⟨⟨hstaffed.change (IsManned.waitOn hstaffed.manned (.inl rfl) (n - 1) next) rfl
        (fun hne => absurd rfl hne) hsound hrostered hstaffed.tidy, ?_, ?_, ?_, ?_⟩, ?_⟩
      · rw [hsame _ (by simp [Phase.plan?]), hawaited']
        omega
      · intro next' hp
        rw [hself] at hp
        have hzero := (Phase.waiting.inj (Option.some.inj hp)).1
        omega
      · intro _ a ha hne hover
        obtain ⟨ha, -⟩ | ⟨x, -, hid, rfl⟩ := mem_setPhase ha
        · exact h.watched hpos a (activities_of_next? hnext ▸ ha) hne hover
        · exact absurd hid hne
      · intro _ a ha hne _ hover
        obtain ⟨ha, -⟩ | ⟨x, -, hid, rfl⟩ := mem_setPhase ha
        · change [.ended a.id, .count k].Sublist c.jobs
          have ha : a ∈ b.activities := activities_of_next? hnext ▸ ha
          exact pair_sublist_of_next? (h.reported hpos a ha hne (by simp) hover) hnext (by simp)
        · exact absurd hid hne
      · rw [hawaited']
        omega
  · have hc : Gathers u none c := h.next hnext (by simpa [Job.isCountOf] using hku)
    have hsame : c.count k = c := by
      unfold Board.count
      split
      case h_1 n next hwait =>
        obtain ⟨x, -, hx, rfl, hphase⟩ := find?_of_phase? hwait
        exact absurd (by rw [Activity.job?, hphase]) (hc.alone x hx hku)
      case h_2 => rfl
    rw [hsame]
    refine ⟨hc, fun hpos hzero => ?_⟩
    rw [hawaited] at hzero
    omega

/-! ## Time passes -/

theorem moveTo (h : Gathers u none b) {time : Nat} (htime : ∀ x ∈ b.agenda.alarms, time ≤ x.due) :
    Gathers u none (b.moveTo time) :=
  { h with tidy := Agenda.isTidy_moveTo h.tidy htime, sound := h.sound.retimed ⟨rfl, rfl, fun _ => id⟩
           rostered := h.rostered.of_sublist (.refl _) rfl }

/-- When nothing is left to be done, now or later, nobody is left. -/
theorem activities_eq_nil (h : Gathers u none b) (hjobs : b.jobs = []) : b.activities = [] := by
  have hwaits (a : Activity R C) (ha : a ∈ b.activities) :
      a.id = u ∧ ∃ n next, a.phase = .waiting n next := by
    have hnone : a.job? (K := K) = none := by
      refine Option.eq_none_iff_forall_ne_some.mpr fun j hj => ?_
      have hmem := h.manned a ha (by simp) j hj
      rw [hjobs] at hmem
      cases hmem
    refine ⟨Decidable.of_not_not fun hne => h.alone a ha hne hnone, ?_⟩
    unfold Activity.job? at hnone
    cases hphase : a.phase <;> simp_all
  -- nobody is left whose end could be counted
  have hzero : b.expected u = 0 := by
    unfold expected load
    rw [hjobs, List.countP_nil, Nat.add_zero]
    refine List.sum_eq_zero fun n hn => ?_
    obtain ⟨a, ha, rfl⟩ := List.mem_map.mp hn
    unfold Activity.owes
    rw [List.count_eq_zero.mpr (h.unwatched a ha (hwaits a ha).1), ite_self]
  refine List.eq_nil_iff_forall_not_mem.mpr fun a ha => ?_
  obtain ⟨rfl, n, next, hwait⟩ := hwaits a ha
  have hphase := h.sound.phase?_of_mem ha
  rw [hwait] at hphase
  have htally := h.tally
  rw [hzero, awaited_of_phase? hphase] at htally
  obtain rfl : 0 = n := htally
  exact h.positive next hphase

end Gathers

end Workbench.Turn.Board
