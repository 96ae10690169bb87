import Workbench.Proofs.Turn.Gathering

/-!
# One activity among the others

What stays so of one activity while something is done with another one, or with a timer: how it stands
with it, its place in line, when it wakes, and whether its end is still to be noticed.
-/
namespace Workbench.Turn.Board

variable {R C K : Type} {b c d : Board R C K} {i : Nat}

/-- The second board has all that the first one has of an activity. -/
structure Spares (i : Nat) (b c : Board R C K) : Prop where
  phase : c.phase? i = b.phase? i
  line : i ∈ b.line → i ∈ c.line
  wake : ∀ due, (due, .wake i) ∈ b.agenda.later → (due, .wake i) ∈ c.agenda.later
  ended : .ended i ∈ b.jobs → .ended i ∈ c.jobs
  now : c.now = b.now
  nextId : c.nextId ≤ i ↔ b.nextId ≤ i

namespace Spares

theorem refl (i : Nat) (b : Board R C K) : Spares i b b :=
  ⟨rfl, id, fun _ => id, id, rfl, .rfl⟩

theorem trans (h : Spares i b c) (h' : Spares i c d) : Spares i b d :=
  ⟨h'.phase.trans h.phase, h'.line ∘ h.line, fun due => h'.wake due ∘ h.wake due,
    h'.ended ∘ h.ended, h'.now.trans h.now, h'.nextId.trans h.nextId⟩

/-- A job is taken up that is none of the activity. -/
theorem next (htidy : b.agenda.IsTidy) {j : Job K} (hnext : b.next? = some (j, c))
    (hj : j.about? ≠ some i) : Spares i b c := by
  have hline := (line_of_next? hnext htidy.quiet).1
  have hjobs := jobs_of_next? hnext
  have hphase := phase?_of_activities (activities_of_next? hnext) i
  obtain ⟨⟨k, a⟩, ha, heq⟩ := Option.map_eq_some_iff.mp hnext
  cases heq
  obtain ⟨hlater, -, hnow⟩ := Agenda.later_of_next? htidy ha
  refine ⟨hphase, fun hi => ?_, fun due hdue => ?_, fun hend => ?_, hnow, .rfl⟩
  · rw [hline] at hi
    obtain hi | hi := List.mem_append.mp hi
    · cases j with
      | run id => exact absurd (congrArg some (List.mem_singleton.mp hi).symm) hj
      | _ => cases hi
    · exact hi
  · rw [hlater] at hdue
    obtain hdue | hdue := List.mem_append.mp hdue
    · cases j with
      | wake id =>
        cases List.mem_singleton.mp hdue
        exact absurd rfl hj
      | fire key => cases List.mem_singleton.mp hdue
      | _ => cases hdue
    · exact hdue
  · rw [hjobs] at hend
    obtain rfl | hend := List.mem_cons.mp hend
    · exact absurd rfl hj
    · exact hend

theorem spawn (hi : i ≠ b.nextId) (role : R) (next : C) : Spares i b (b.spawn role next) := by
  refine ⟨phase?_spawn_of_ne hi role next, fun hline => ?_, fun _ => id, fun hend => ?_, rfl, ?_⟩
  · rw [line_spawn]
    exact List.mem_append_left _ hline
  · exact ((addsTurns_spawn b role next).mem_iff rfl).mpr hend
  · change b.nextId + 1 ≤ i ↔ b.nextId ≤ i
    omega

theorem arm (i : Nat) (b : Board R C K) (delay : Nat) (key : K) : Spares i b (b.arm delay key) := by
  refine ⟨rfl, id, fun due hdue => ?_, fun hend => ?_, rfl, .rfl⟩
  · have hlater : (b.arm delay key).agenda.later = _ := Agenda.later_arm b.agenda delay (.fire key)
    rw [hlater, mem_insertDue]
    exact .inr hdue
  · exact (jobs_arm b delay key).mem_iff.mpr (List.mem_cons_of_mem _ hend)

theorem disarm [DecidableEq K] (i : Nat) (b : Board R C K) (key : K) :
    Spares i b (b.disarm key) := by
  refine ⟨rfl, fun hi => ?_, fun due hdue => ?_, fun hend => ?_, rfl, .rfl⟩
  · rw [(sameLine_disarm b key).line]
    exact hi
  · have hlater : (b.disarm key).agenda.later = _ := Agenda.later_disarm b.agenda (.fire key)
    rw [hlater]
    exact List.mem_filter.mpr ⟨hdue, by simp⟩
  · rw [jobs_disarm]
    exact List.mem_filter.mpr ⟨hend, by simp⟩

theorem disarmAll [DecidableEq K] (i : Nat) (keys : List K) (b : Board R C K) :
    Spares i b (keys.foldl Board.disarm b) := by
  induction keys generalizing b with
  | nil => exact refl i b
  | cons key keys ih => exact (disarm i b key).trans (ih _)

/-! ## Another activity -/

section Other

variable {k : Nat} (hne : i ≠ k)

include hne

theorem setPhase (p : Phase C) : Spares i b (b.setPhase k p) :=
  ⟨phase?_setPhase_of_ne b p hne, id, fun _ => id, id, rfl, .rfl⟩

theorem sleep (time : Nat) (next : C) : Spares i b (b.sleep k time next) := by
  refine (setPhase hne (.asleep next)).trans ⟨rfl, id, fun due hdue => ?_, fun hend => ?_, rfl, .rfl⟩
  · have hlater : (b.sleep k time next).agenda.later = _ := Agenda.later_arm b.agenda time (.wake k)
    rw [hlater, mem_insertDue]
    exact .inr hdue
  · exact ((addsTurns_sleep b k time next).mem_iff rfl).mpr hend

theorem finish (failure : Option Failure) : Spares i b (b.finish k failure) := by
  obtain ⟨hlater, hnow⟩ := later_queueAll (b.setPhase k (.over failure))
    (.ended k :: ((b.find? k).elim [] (·.watchers)).map .count)
  refine ⟨phase?_finish b failure hne, fun hi => ?_, fun due hdue => ?_, fun hend => ?_, hnow, ?_⟩
  · rw [line_finish]
    exact hi
  · exact hlater ▸ hdue
  · exact (sublist_finish b k failure).subset hend
  · rw [Board.finish, nextId_queueAll]
    rfl

theorem wake_other : Spares i b (b.wake k) := by
  unfold Board.wake
  split
  case h_2 => exact refl i b
  case h_1 next hphase =>
    refine (setPhase hne (.ready next)).trans ⟨rfl, fun hi => ?_, fun _ => id, fun hend => ?_, rfl,
      .rfl⟩
    · rw [line_queue]
      exact List.mem_append_left _ hi
    · exact (jobs_queue _ _).mem_iff.mpr (List.mem_cons_of_mem _ hend)

theorem remove : Spares i b (b.remove k) :=
  ⟨phase?_remove b hne, id, fun _ => id, id, rfl, .rfl⟩

end Other

end Spares

end Workbench.Turn.Board
