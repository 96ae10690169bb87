import Workbench.Journal
import Workbench.Turn.Board

/-!
# The coalescing scheduler

One timer for each key, with the work that is to start when it fires. Scheduling work for a key
whose timer is still armed replaces that work and starts the window anew; work that has started is
never taken back.
-/
namespace Workbench.Coalescing

open Turn (Activity Board)

/-- The window in microseconds, and the work of the armed timers. -/
structure Scheduler (K W : Type) where
  window : Nat
  pending : List (K × W) := []
  deriving Repr

namespace Scheduler

variable {K W R C : Type}

section Timers

variable [DecidableEq K]

/-- The work that waits under a key. -/
def work? (s : Scheduler K W) (key : K) : Option W := s.pending.lookup key

def isPending (s : Scheduler K W) (key : K) : Bool := (s.work? key).isSome

/-- Drop the work under a key. -/
def drop (s : Scheduler K W) (key : K) : Scheduler K W :=
  { s with pending := s.pending.filter (·.1 ≠ key) }

/-- Arm the timer of a key, anew if it was armed. -/
def schedule (s : Scheduler K W) (key : K) (work : W) (b : Board R C K) :
    Scheduler K W × Board R C K :=
  ({ s with pending := (s.drop key).pending ++ [(key, work)] },
    (b.disarm key).arm s.window key)

/-- Disarm the timer of a key. -/
def cancel (s : Scheduler K W) (key : K) (b : Board R C K) : Scheduler K W × Board R C K :=
  (s.drop key, b.disarm key)

/-- Disarm all timers. -/
def cancelAll (s : Scheduler K W) (b : Board R C K) : Scheduler K W × Board R C K :=
  ({ s with pending := [] }, (s.pending.map Prod.fst).foldl Board.disarm b)

/-- The timer of a key has fired: its work, and the scheduler without it. -/
def take? (s : Scheduler K W) (key : K) : Option (W × Scheduler K W) :=
  (s.work? key).map fun w => (w, s.drop key)

end Timers

/-- How long to wait before looking again whether armed timers have fired: a quarter of the
window, and at least a millisecond. -/
def pollTime (s : Scheduler K W) : Nat := max (s.window / 4) 1000

/-- What is left to wait for until no timer is armed and no work runs. -/
inductive Wait (R C : Type) where
  | nothing
  | activities (running : List (Activity R C))
  | time (duration : Nat)

/-- Work that runs is waited for first. -/
def wait (s : Scheduler K W) (running : List (Activity R C)) : Wait R C :=
  if running.isEmpty then
    if s.pending.isEmpty then .nothing else .time s.pollTime
  else .activities running

/-- The note about work that was replaced. -/
def replacedNote (key : String) : Note :=
  .debug "Coalesced pending work" [("key", .string key)]

/-- The note about work that failed. -/
def failedNote (f : Failure) : Note :=
  .error "Scheduled work failed" [("error", .string f.message), ("error_type", .string f.typeName)]

end Scheduler

end Workbench.Coalescing
