import Workbench.Proofs.Turn.Outlook

/-!
# The timers of a board

The keys that a timer is armed for, with the time it is due. What is done with the activities leaves
them as they are; to let time pass does so too, as nothing is ever overdue.
-/
namespace Workbench.Turn

/-- The key whose timer goes off with this job. -/
def Job.timer? {K : Type} : Job K → Option K
  | .fire key => some key
  | _ => none

theorem Job.timer?_eq_some {K : Type} {j : Job K} {key : K} :
    j.timer? = some key ↔ j = .fire key := by
  cases j <;> simp [timer?]

namespace Board

variable {R C K : Type} {b c : Board R C K}

/-- The armed timers by the time they are due, those first that have gone off in this turn. -/
def timers (b : Board R C K) : List (Nat × K) := relabel Job.timer? b.agenda.later

theorem mem_timers {due : Nat} {key : K} :
    (due, key) ∈ b.timers ↔ (due, .fire key) ∈ b.agenda.later := by
  simp [timers, mem_relabel, Job.timer?_eq_some]

theorem now_le_of_mem_timers (h : b.agenda.IsTidy) {x : Nat × K} (hx : x ∈ b.timers) :
    b.now ≤ x.1 := h.now_le (mem_timers.mp hx)

theorem timers_arm (h : b.agenda.IsTidy) (delay : Nat) (key : K) :
    (b.arm delay key).timers = insertDue (b.now + delay, key) b.timers := by
  have hlater : (b.arm delay key).agenda.later = _ := Agenda.later_arm b.agenda delay (.fire key)
  rw [timers, hlater, relabel_insertDue h.isByTime]
  rfl

theorem timers_disarm [DecidableEq K] (b : Board R C K) (key : K) :
    (b.disarm key).timers = b.timers.filter (·.2 ≠ key) := by
  have hlater : (b.disarm key).agenda.later = _ := Agenda.later_disarm b.agenda (.fire key)
  rw [timers, hlater, timers, relabel, relabel, List.filterMap_filter, List.filter_filterMap]
  refine List.filterMap_congr fun x _ => ?_
  obtain ⟨due, j⟩ := x
  cases j with
  | fire k => by_cases hk : k = key <;> simp [Job.timer?, hk, Option.filter]
  | _ => simp [Job.timer?]

theorem timers_disarmAll [DecidableEq K] (keys : List K) (b : Board R C K) :
    (keys.foldl disarm b).timers = b.timers.filter (·.2 ∉ keys) := by
  induction keys generalizing b with
  | nil => simp
  | cons key keys ih =>
    rw [List.foldl_cons, ih, timers_disarm, List.filter_filter]
    refine List.filter_congr fun x _ => ?_
    simp [Bool.and_comm]

/-- A timer that goes off was the first, and is due. -/
theorem timers_of_next? (h : b.agenda.IsTidy) {j : Job K} (hnext : b.next? = some (j, c)) :
    b.timers = (j.timer?.map (b.now, ·)).toList ++ c.timers := by
  obtain ⟨⟨i, a⟩, ha, heq⟩ := Option.map_eq_some_iff.mp hnext
  cases heq
  rw [timers, (Agenda.later_of_next? h ha).1, relabel_append]
  cases j <;> rfl

/-! ## What leaves the timers as they are -/

/-- The timers of the second board are those of the first, and it is as late on both. -/
structure KeepsTimers (b c : Board R C K) : Prop where
  timers : c.timers = b.timers
  now : c.now = b.now
  tidy : c.agenda.IsTidy

theorem keepsTimers_of_later (hlater : c.agenda.later = b.agenda.later) (hnow : c.now = b.now)
    (h : c.agenda.IsTidy) : KeepsTimers b c :=
  ⟨congrArg (relabel Job.timer?) hlater, hnow, h⟩

theorem keepsTimers_of_agenda (h : b.agenda.IsTidy) (hc : c.agenda = b.agenda) :
    KeepsTimers b c := by
  refine keepsTimers_of_later ?_ ?_ ?_
  · rw [hc]
  · rw [now, hc, now]
  · rwa [hc]

theorem keepsTimers_next (h : b.agenda.IsTidy) {j : Job K} (hnext : b.next? = some (j, c))
    (hj : j.timer? = none) : KeepsTimers b c := by
  have htimers := timers_of_next? h hnext
  rw [hj, Option.map_none, Option.toList_none, List.nil_append] at htimers
  obtain ⟨-, htidy, hnow⟩ := outlook_of_next? h hnext
  exact ⟨htimers.symm, hnow, htidy⟩

theorem keepsTimers_sleep (h : b.agenda.IsTidy) (id time : Nat) (next : C) :
    KeepsTimers b (b.sleep id time next) := by
  refine ⟨?_, rfl, Agenda.isTidy_arm h time rfl⟩
  have hlater : (b.sleep id time next).agenda.later = _ :=
    Agenda.later_arm b.agenda time (.wake id)
  rw [timers, hlater, relabel_insertDue h.isByTime]
  rfl

theorem keepsTimers_finish (h : b.agenda.IsTidy) (id : Nat) (failure : Option Failure) :
    KeepsTimers b (b.finish id failure) :=
  keepsTimers_of_later (later_queueAll _ _).1 (now_finish b id failure)
    (isTidy_finish h id failure)

theorem keepsTimers_wake (h : b.agenda.IsTidy) (id : Nat) : KeepsTimers b (b.wake id) := by
  unfold wake
  split
  · exact keepsTimers_of_later rfl rfl (Agenda.isTidy_queue h rfl)
  · exact keepsTimers_of_agenda h rfl

end Board

end Workbench.Turn
