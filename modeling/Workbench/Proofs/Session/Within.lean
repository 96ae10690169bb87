import Workbench.Proofs.Session.Editor
import Workbench.Proofs.Session.Round
import Workbench.Proofs.Session.Shift

/-!
# Sessions in which not everything is done

What is kept by all that may occur in a session is kept however it goes on, as long as nothing
else is done: whoever uses it, whatever the service answers and whatever timers go off. Main
definition: `NextWithin`.
-/
namespace Workbench.Session

open Turn (Board)

variable {V : Type} {view : View V} {σ : Scope}

/-- What can happen next in a session if no more is done than may be. A user who types puts a text
into an editor, which reports it sooner or later. -/
inductive NextWithin (view : View V) (σ : Scope) : Session V → Session V → Prop
  | job {s t} (h : s.step view = some t) : NextWithin view σ s t
  | wait (s time) : NextWithin view σ s { s with board := s.board.moveTo time }
  | launch (s number) {actions} (h : ∀ a ∈ actions, a.isFair = true ∧ a.Within σ) :
      NextWithin view σ s (s.launch number actions)
  | attach (s b name) (h : σ.attaches b name) : NextWithin view σ s (s.attach b name)
  | put (s name text) (h : σ.types name) : NextWithin view σ s (s.put name text)
  | report (s name) : NextWithin view σ s (s.report name)
  | close (s) : NextWithin view σ s s.close
  | around {s t} (h : Still s t) : NextWithin view σ s t

abbrev RunWithin (view : View V) (σ : Scope) : Session V → Session V → Prop :=
  Relation.ReflTransGen (NextWithin view σ)

theorem RunWithin.rest (budget : Nat) (s : Session V) :
    RunWithin view σ s ((machine view).rest budget s) :=
  Run.iterate (fun _ _ => .job) budget s

variable {s t : Session V}

theorem NextWithin.next (h : NextWithin view σ s t) : Next view s t := by
  cases h with
  | job h => exact .job h
  | wait time => exact .wait s time
  | launch number h => exact .launch s number fun a ha => (h a ha).1
  | attach b name => exact .attach s b name
  | put name text => exact .around ⟨rfl, rfl, rfl, rfl, rfl⟩
  | report name => exact .report s name
  | close => exact .close s
  | around h => exact .around h.toQuiet

theorem NextWithin.isOrderly (h : NextWithin view σ s t) (hs : s.IsOrderly) : t.IsOrderly :=
  (h.next.byShifts hs).1

/-- What an activity still has to do is no more than may be done, unless it is to apply a change
in an editor. -/
def IsWithin (σ : Scope) (s : Session V) : Prop :=
  ∀ a ∈ s.board.activities, a.role ≠ .edit → ∀ plan, a.task.plan? = some plan → plan.Within σ

namespace IsKept

variable {I : Session V → Prop}

theorem next (h : IsKept σ I s) (K : Upholds σ I)
    (hput : ∀ {s name text}, I s → σ.types name → I (s.put name text)) (hs : s.IsOrderly)
    (hnext : NextWithin view σ s t) : IsKept σ I t := by
  cases hnext with
  | job hstep => exact h.step K hs hstep
  | wait time => exact h.touch K (.rest ⟨sameBench_board s _, Board.sameLine_moveTo s.board time⟩)
  | launch number hactions => exact h.launch K number fun a ha => (hactions a ha).2
  | attach b name hattach => exact h.touch K (.attach s b name hattach)
  | put name text htype => exact ⟨h.queue.of_board rfl, hput h.holds htype⟩
  | report name => exact h.touch K (.report s name)
  | close => exact h.touch K (.rest (aloof_close s))
  | around hstill => exact h.touch K (.rest hstill.aloof)

end IsKept

/-! ## Any session -/

/-- Everything may be done. -/
def Scope.any : Scope where
  edits _ _ := True
  types _ := True
  attaches _ _ := True

theorem Action.within_any (a : Action) : a.Within .any := by
  cases a with
  | edit | format => exact fun _ _ => trivial
  | dispatch => exact fun _ _ _ => trivial
  | _ => trivial

/-- In every state of a session the changes in editors stand in line. -/
theorem Reachable.isQueue (hs : Reachable view s) : IsQueue .any s := by
  have K : Upholds (V := V) .any fun _ => True := ⟨fun _ _ _ => trivial, fun _ _ _ _ => trivial,
    fun _ _ _ _ => trivial⟩
  induction hs with
  | new => exact isQueue_of_empty rfl
  | next hs hnext ih =>
    have hkept : IsKept .any (fun _ => True) _ := ⟨ih, trivial⟩
    cases hnext with
    | job hstep => exact (hkept.step K hs.isOrderly hstep).queue
    | wait time => exact ih.sameLine (Board.sameLine_moveTo _ time)
    | launch number => exact (hkept.launch K number fun a _ => a.within_any).queue
    | attach b name => exact ih.attach b name
    | type name text => exact ih.typeInto name text
    | report name => exact ih.report name
    | close => exact ih.sameLine (Board.sameLine_disarmAll _ _)
    | around h => exact ih.of_board h.board

theorem IsQueue.within (h : IsQueue .any s) (hs : s.IsWithin σ) : IsQueue σ s := by
  refine ⟨h.line, fun a ha => ?_⟩
  cases hrole : a.role.isEdit with
  | true =>
    have hany := h.each a ha
    rw [Scope.Allows, if_pos hrole] at hany ⊢
    exact hany
  | false =>
    have hne : a.role ≠ .edit := fun heq => by simp [heq, Role.isEdit] at hrole
    exact Scope.allows_of_role hrole (hs a ha hne)

/-- When nothing is to be done, all changes in editors have been applied. -/
theorem IsQueue.backlog_eq_nil (h : IsQueue σ s) (hrest : s.step view = none)
    (d : Document.Draft) : s.backlog d = [] := by
  have hnone : s.board.agenda.next? = none :=
    Option.map_eq_none_iff.mp (Option.map_eq_none_iff.mp hrest)
  rw [backlog_eq, h.line.eq_nil_of_rest hnone]
  rfl

end Workbench.Session
