import Workbench.Proofs.Turn.Order

/-!
# What is so of each activity

Something that depends on the role of an activity and on how it stands with it, and is so of each
activity of a board. Each operation has to see to it only for the activity that it is about.
-/
namespace Workbench.Turn.Board

variable {R C K : Type} {P : R → Phase C → Prop} {b c : Board R C K}

/-- It is so of each activity. -/
def Each (P : R → Phase C → Prop) (b : Board R C K) : Prop := ∀ a ∈ b.activities, P a.role a.phase

theorem exists_of_phase? {id : Nat} {q : Phase C} (h : b.phase? id = some q) :
    ∃ a ∈ b.activities, a.id = id ∧ a.phase = q := by
  obtain ⟨a, ha, rfl⟩ := Option.map_eq_some_iff.mp h
  exact ⟨a, List.mem_of_find?_eq_some ha, by simpa using List.find?_some ha, rfl⟩

theorem IsSound.nodup_activities (h : b.IsSound) : (b.activities.map (·.id)).Nodup := by
  have hids : b.tasks.map (·.id) = b.activities.map (·.id) := by
    rw [tasks, List.map_map]
    rfl
  exact hids ▸ h.nodup

/-- The number of an activity tells which one it is. -/
theorem IsSound.activity_eq (h : b.IsSound) {x y : Activity R C} (hx : x ∈ b.activities)
    (hy : y ∈ b.activities) (hid : x.id = y.id) : x = y :=
  List.inj_on_of_nodup_map h.nodup_activities hx hy hid

namespace Each

theorem of_eq (h : b.Each P) (hc : c.activities = b.activities) : c.Each P := by
  unfold Each
  rwa [hc]

theorem spawn (h : b.Each P) {role : R} {next : C} (hnew : P role (.ready next)) :
    (b.spawn role next).Each P := by
  intro a ha
  obtain ha | ha := List.mem_append.mp ha
  · exact h a ha
  · rw [List.mem_singleton.mp ha]
    exact hnew

theorem modify (h : b.Each P) {id : Nat} {f : Activity R C → Activity R C}
    (hf : ∀ a ∈ b.activities, a.id = id → P (f a).role (f a).phase) : (b.modify id f).Each P := by
  intro a ha
  obtain ⟨x, hx, rfl⟩ := List.mem_map.mp ha
  split
  · exact hf x hx ‹_›
  · exact h x hx

theorem setPhase (h : b.Each P) {id : Nat} {q : Phase C}
    (hq : ∀ a ∈ b.activities, a.id = id → P a.role q) : (b.setPhase id q).Each P :=
  h.modify hq

theorem watch (h : b.Each P) (id : Nat) (other : Activity R C) :
    (Board.watch id b other).Each P := by
  unfold Board.watch
  split
  · exact h
  · exact h.modify fun a ha _ => h a ha

theorem await (h : b.Each P) {id : Nat} {others : List (Activity R C)} {next : C}
    (hq : ∀ a ∈ b.activities, a.id = id → P a.role (.waiting others.length next)) :
    (b.await id others next).Each P :=
  await_induction (motive := Each P) (h.setPhase hq) fun _ other hc => hc.watch id other

theorem finish (h : b.Each P) {id : Nat} {failure : Option Failure}
    (hq : ∀ a ∈ b.activities, a.id = id → P a.role (.over failure)) :
    (b.finish id failure).Each P := (h.setPhase hq).of_eq (activities_queueAll _ _)

theorem remove (h : b.Each P) (id : Nat) : (b.remove id).Each P :=
  fun a ha => h a (List.mem_filter.mp ha).1

/-- How it stands with one activity changes, and what is so of it stays so. -/
theorem setPhase_of_phase? (h : b.Each P) (hsound : b.IsSound) {id : Nat} {q r : Phase C}
    (hphase : b.phase? id = some q) (hr : ∀ role, P role q → P role r) :
    (b.setPhase id r).Each P := by
  obtain ⟨x, hx, rfl, rfl⟩ := exists_of_phase? hphase
  refine h.setPhase fun a ha hid => ?_
  rw [hsound.activity_eq ha hx hid]
  exact hr x.role (h x hx)

theorem wake (h : b.Each P) (hsound : b.IsSound) (id : Nat)
    (hgo : ∀ role next, P role (.asleep next) → P role (.ready next)) : (b.wake id).Each P := by
  unfold Board.wake
  split
  case h_1 next hphase => exact h.setPhase_of_phase? hsound hphase fun role => hgo role next
  case h_2 => exact h

theorem count (h : b.Each P) (hsound : b.IsSound) (id : Nat)
    (hwait : ∀ role n m next, P role (.waiting n next) → P role (.waiting m next))
    (hgo : ∀ role n next, P role (.waiting n next) → P role (.ready next)) :
    (b.count id).Each P := by
  unfold Board.count
  split
  case h_1 n next hphase =>
    split
    · exact h.setPhase_of_phase? hsound hphase fun role => hgo role n next
    · exact h.setPhase_of_phase? hsound hphase fun role => hwait role n _ next
  case h_2 => exact h

end Each

end Workbench.Turn.Board
