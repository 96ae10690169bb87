import Mathlib.Data.List.Forall2
import Workbench.Proofs.Turn.Board

/-!
# Boards that are alike

Two boards with the same agenda and the same activities, except that what the activities do next is
only related. Each operation, done to both, leaves them alike; so the same jobs come up on both.
-/
namespace Workbench.Turn

open Relator

variable {R C K : Type} {Q : C → C → Prop}

/-- It stands alike with two activities: what they do next is related. -/
inductive Phase.Alike (Q : C → C → Prop) : Phase C → Phase C → Prop
  | ready {x y} (h : Q x y) : Phase.Alike Q (.ready x) (.ready y)
  | asleep {x y} (h : Q x y) : Phase.Alike Q (.asleep x) (.asleep y)
  | waiting (n) {x y} (h : Q x y) : Phase.Alike Q (.waiting n x) (.waiting n y)
  | over (f) : Phase.Alike Q (.over f) (.over f)

structure Activity.Alike (Q : C → C → Prop) (t u : Activity R C) : Prop where
  id : u.id = t.id
  role : u.role = t.role
  phase : t.phase.Alike Q u.phase
  watchers : u.watchers = t.watchers

theorem Activity.Alike.isOver {t u : Activity R C} (h : t.Alike Q u) : u.isOver = t.isOver := by
  have hphase := h.phase
  unfold Activity.isOver
  generalize t.phase = q at hphase
  generalize u.phase = r at hphase
  cases hphase <;> rfl

/-- Lists of activities that are alike, one by one. -/
abbrev ActivitiesAlike (Q : C → C → Prop) : List (Activity R C) → List (Activity R C) → Prop :=
  List.Forall₂ (Activity.Alike Q)

theorem ActivitiesAlike.isEmpty {ts us : List (Activity R C)} (h : ActivitiesAlike Q ts us) :
    us.isEmpty = ts.isEmpty := by
  cases h <;> rfl

namespace Board

structure Alike (Q : C → C → Prop) (b c : Board R C K) : Prop where
  agenda : c.agenda = b.agenda
  activities : ActivitiesAlike Q b.activities c.activities
  nextId : c.nextId = b.nextId

namespace Alike

variable {b c : Board R C K} {id : Nat} {x y : C}

theorem find? (h : b.Alike Q c) (id : Nat) :
    (b.find? id = none ∧ c.find? id = none) ∨
      ∃ t u, b.find? id = some t ∧ c.find? id = some u ∧ t.Alike Q u := by
  have hactivities := h.activities
  unfold Board.find?
  generalize b.activities = ts at hactivities
  generalize c.activities = us at hactivities
  induction hactivities with
  | nil => exact .inl ⟨rfl, rfl⟩
  | @cons t u ts us htu _ ih =>
    rw [List.find?_cons, List.find?_cons, htu.id]
    cases decide (t.id = id)
    · exact ih
    · exact .inr ⟨t, u, rfl, rfl, htu⟩

theorem withRole (h : b.Alike Q c) (role : R → Bool) :
    ActivitiesAlike Q (b.withRole role) (c.withRole role) :=
  List.rel_filter (fun _ _ htu => by dsimp only; rw [htu.role]) h.activities

theorem modify (h : b.Alike Q c) (id : Nat) {f g : Activity R C → Activity R C}
    (hfg : ∀ t u, t.Alike Q u → (f t).Alike Q (g u)) : (b.modify id f).Alike Q (c.modify id g) := by
  refine ⟨h.agenda, List.rel_map (fun t u htu => ?_) h.activities, h.nextId⟩
  rw [htu.id]
  split
  · exact hfg t u htu
  · exact htu

theorem setPhase (h : b.Alike Q c) (id : Nat) {q r : Phase C} (hqr : q.Alike Q r) :
    (b.setPhase id q).Alike Q (c.setPhase id r) :=
  h.modify id fun _ _ htu => ⟨htu.id, htu.role, hqr, htu.watchers⟩

theorem queue (h : b.Alike Q c) (j : Job K) : (b.queue j).Alike Q (c.queue j) :=
  ⟨congrArg (·.queue j) h.agenda, h.activities, h.nextId⟩

theorem queueAll (h : b.Alike Q c) (js : List (Job K)) : (b.queueAll js).Alike Q (c.queueAll js) := by
  induction js generalizing b c with
  | nil => exact h
  | cons j js ih => exact ih (h.queue j)

theorem spawn (h : b.Alike Q c) (role : R) (hxy : Q x y) :
    (b.spawn role x).Alike Q (c.spawn role y) := by
  unfold Board.spawn
  rw [h.agenda, h.nextId]
  exact ⟨rfl, List.rel_append h.activities (.cons ⟨rfl, rfl, .ready hxy, rfl⟩ .nil), rfl⟩

theorem sleep (h : b.Alike Q c) (id time : Nat) (hxy : Q x y) :
    (b.sleep id time x).Alike Q (c.sleep id time y) := by
  have hset := h.setPhase id (.asleep hxy)
  exact ⟨congrArg (·.arm time (.wake id)) hset.agenda, hset.activities, hset.nextId⟩

theorem watch (h : b.Alike Q c) (id : Nat) {t u : Activity R C} (htu : t.Alike Q u) :
    (Board.watch id b t).Alike Q (Board.watch id c u) := by
  unfold Board.watch
  rw [htu.isOver, htu.id]
  split
  · exact h.queue _
  · exact h.modify _ fun v w hvw =>
      ⟨hvw.id, hvw.role, hvw.phase, congrArg (· ++ [id]) hvw.watchers⟩

theorem await (h : b.Alike Q c) (id : Nat) {ts us : List (Activity R C)}
    (hothers : ActivitiesAlike Q ts us) (hxy : Q x y) :
    (b.await id ts x).Alike Q (c.await id us y) := by
  unfold Board.await
  rw [hothers.length_eq]
  have hset := h.setPhase id (.waiting us.length hxy)
  exact List.rel_foldl (fun _ _ hbc _ _ htu => hbc.watch id htu) hset hothers

theorem finish (h : b.Alike Q c) (id : Nat) (failure : Option Failure) :
    (b.finish id failure).Alike Q (c.finish id failure) := by
  unfold Board.finish
  obtain ⟨hb, hc⟩ | ⟨t, u, hb, hc, htu⟩ := h.find? id
  · rw [hb, hc]
    exact (h.setPhase id (.over failure)).queueAll _
  · rw [hb, hc]
    dsimp only [Option.elim]
    rw [htu.watchers]
    exact (h.setPhase id (.over failure)).queueAll _

theorem phase? (h : b.Alike Q c) (id : Nat) :
    (b.phase? id = none ∧ c.phase? id = none) ∨
      ∃ q r, b.phase? id = some q ∧ c.phase? id = some r ∧ q.Alike Q r := by
  unfold Board.phase?
  obtain ⟨hb, hc⟩ | ⟨t, u, hb, hc, htu⟩ := h.find? id
  · exact .inl ⟨by rw [hb]; rfl, by rw [hc]; rfl⟩
  · exact .inr ⟨t.phase, u.phase, by rw [hb]; rfl, by rw [hc]; rfl, htu.phase⟩

theorem wake (h : b.Alike Q c) (id : Nat) : (b.wake id).Alike Q (c.wake id) := by
  unfold Board.wake
  obtain ⟨hb, hc⟩ | ⟨q, r, hb, hc, hqr⟩ := h.phase? id <;> rw [hb, hc]
  · exact h
  · cases hqr with
    | asleep hxy => exact (h.setPhase id (.ready hxy)).queue _
    | _ => exact h

theorem count (h : b.Alike Q c) (id : Nat) : (b.count id).Alike Q (c.count id) := by
  unfold Board.count
  obtain ⟨hb, hc⟩ | ⟨q, r, hb, hc, hqr⟩ := h.phase? id <;> rw [hb, hc]
  · exact h
  · cases hqr with
    | waiting n hxy =>
      dsimp only
      split
      · exact (h.setPhase id (.ready hxy)).queue _
      · exact h.setPhase id (.waiting _ hxy)
    | _ => exact h

theorem remove (h : b.Alike Q c) (id : Nat) : (b.remove id).Alike Q (c.remove id) :=
  ⟨h.agenda, List.rel_filter (fun _ _ htu => by dsimp only; rw [htu.id]) h.activities, h.nextId⟩

theorem moveTo (h : b.Alike Q c) (time : Nat) : (b.moveTo time).Alike Q (c.moveTo time) :=
  ⟨congrArg (·.moveTo time) h.agenda, h.activities, h.nextId⟩

theorem arm (h : b.Alike Q c) (delay : Nat) (key : K) :
    (b.arm delay key).Alike Q (c.arm delay key) :=
  ⟨congrArg (·.arm delay (.fire key)) h.agenda, h.activities, h.nextId⟩

theorem disarm [DecidableEq K] (h : b.Alike Q c) (key : K) :
    (b.disarm key).Alike Q (c.disarm key) :=
  ⟨congrArg (·.disarm (.fire key)) h.agenda, h.activities, h.nextId⟩

theorem disarmAll [DecidableEq K] (h : b.Alike Q c) (keys : List K) :
    (keys.foldl Board.disarm b).Alike Q (keys.foldl Board.disarm c) := by
  induction keys generalizing b c with
  | nil => exact h
  | cons key keys ih => exact ih (h.disarm key)

/-- The same job comes up on both boards, or none does. -/
theorem next? (h : b.Alike Q c) :
    (b.next? = none ∧ c.next? = none) ∨
      ∃ j b' c', b.next? = some (j, b') ∧ c.next? = some (j, c') ∧ b'.Alike Q c' := by
  unfold Board.next?
  rw [h.agenda]
  cases b.agenda.next? with
  | none => exact .inl ⟨rfl, rfl⟩
  | some x => exact .inr ⟨x.1, _, _, rfl, rfl, rfl, h.activities, h.nextId⟩

end Alike

end Board

end Workbench.Turn
