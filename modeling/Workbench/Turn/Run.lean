import Workbench.Turn.Board

/-!
# Running

A machine does the jobs of its agenda one by one. It runs as long as anything is to be done at the
present moment; to let time pass, it is moved from alarm to alarm. The number of steps is bounded
by a budget; a machine that has come to rest does not use the rest of it.
-/
namespace Workbench.Turn

/-- What is needed to run a machine: one step, if there is a job; the time of its next alarm; and
the same machine at a later time. -/
structure Machine (σ : Type) where
  step : σ → Option σ
  nextDue? : σ → Option Nat
  moveTo : σ → Nat → σ

namespace Machine

variable {σ : Type}

/-- Repeat a step while there is one. -/
def iterate (step : σ → Option σ) : Nat → σ → σ
  | 0, s => s
  | budget + 1, s =>
    match step s with
    | some t => iterate step budget t
    | none => s

/-- Do everything that is to be done now. -/
def rest (m : Machine σ) (budget : Nat) (s : σ) : σ := iterate m.step budget s

/-- A step, or else a move to the next alarm, if that may be at the time it is due. -/
def stepOrMove (m : Machine σ) (mayMove : σ → Nat → Bool) (s : σ) : Option σ :=
  match m.step s with
  | some t => some t
  | none =>
    match m.nextDue? s with
    | some due => if mayMove s due then some (m.moveTo s due) else none
    | none => none

/-- Let time pass up to a moment, with all that happens then. -/
def passTo (m : Machine σ) (budget : Nat) (time : Nat) (s : σ) : σ :=
  m.moveTo (iterate (m.stepOrMove fun _ due => due ≤ time) budget s) time

/-- Let time pass as long as it takes for something to be so, and no longer. -/
def passUntil (m : Machine σ) (budget : Nat) (isSo : σ → Bool) (s : σ) : σ :=
  iterate (m.stepOrMove fun s _ => !isSo s) budget s

end Machine

end Workbench.Turn
