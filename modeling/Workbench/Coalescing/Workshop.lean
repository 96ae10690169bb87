import Workbench.Coalescing.Scheduler
import Workbench.Turn.Run

/-!
# The workshop

A coalescing scheduler at work: errands are scheduled under keys, start when their timers fire, and
take their time. Every start and every end is entered in a record.
-/
namespace Workbench.Coalescing

open Turn (Activity Board Job Machine)

/-- A piece of work: its label, how long it takes, the message it fails with unless that is empty,
and what it schedules towards its end. -/
inductive Errand where
  | mk (label : String) (takes : Nat) (failure : String) (next : Option (String × Errand))
  deriving Inhabited

/-- An entry of the record: an errand has started, or has ended without failing. -/
structure Entry where
  label : String
  isEnd : Bool
  time : Nat
  deriving DecidableEq, Repr

/-- Whose activity it is. -/
inductive Hand where
  | errand
  | drain (number : Nat)
  deriving DecidableEq, Repr

/-- What an activity does next. -/
inductive Stage where
  | start (e : Errand)
  | conclude (e : Errand)
  | drain

/-- A scheduler with its errands, the record, the journal, and the drains that have ended. -/
structure Workshop where
  scheduler : Scheduler String Errand
  board : Board Hand Stage String := {}
  record : List Entry := []
  journal : List Note := []
  drained : List Nat := []

namespace Workshop

/-- A new workshop; the window, in milliseconds, must not be negative. -/
def ofWindow (milliseconds : Int) : Except Failure Workshop :=
  if milliseconds < 0 then .error .negativeWindow
  else .ok { scheduler := { window := milliseconds.toNat * 1000 } }

/-- The default window: three tenths of a second. -/
def defaultWindow : Int := 300

/-- The errands that have started and not left yet. -/
def running (w : Workshop) : List (Activity Hand Stage) := w.board.withRole (· == .errand)

/-- No timer is armed and no errand runs. -/
def isIdle (w : Workshop) : Bool := w.scheduler.pending.isEmpty && w.running.isEmpty

def note (w : Workshop) (n : Note) : Workshop := { w with journal := w.journal ++ [n] }

def enter (w : Workshop) (label : String) (isEnd : Bool) : Workshop :=
  { w with record := w.record ++ [⟨label, isEnd, w.board.now⟩] }

/-- Schedule an errand. -/
def schedule (w : Workshop) (key : String) (e : Errand) : Workshop :=
  let w := if w.scheduler.isPending key then w.note (Scheduler.replacedNote key) else w
  let (scheduler, board) := w.scheduler.schedule key e w.board
  { w with scheduler, board }

/-- Drop the errand that waits under a key; was there one? -/
def cancel (w : Workshop) (key : String) : Bool × Workshop :=
  let (scheduler, board) := w.scheduler.cancel key w.board
  (w.scheduler.isPending key, { w with scheduler, board })

def cancelAll (w : Workshop) : Workshop :=
  let (scheduler, board) := w.scheduler.cancelAll w.board
  { w with scheduler, board }

/-- Start to wait until the workshop is idle. -/
def startDrain (w : Workshop) (number : Nat) : Workshop :=
  { w with board := w.board.spawn (.drain number) .drain }

/-- The end of an errand. -/
def conclude (w : Workshop) (id : Nat) : Errand → Workshop
  | .mk label _ failure next =>
    if failure.isEmpty then
      let w := match next with
        | some (key, e) => w.schedule key e
        | none => w
      let w := w.enter label true
      { w with board := w.board.finish id none }
    else { w with board := w.board.finish id (some (.broken .runtime failure)) }

/-- An errand starts; one that takes no time ends at once. -/
def start (w : Workshop) (id : Nat) (e : Errand) : Workshop :=
  match e with
  | .mk label takes _ _ =>
    let w := w.enter label false
    if takes = 0 then w.conclude id e
    else { w with board := w.board.sleep id takes (.conclude e) }

/-- A drain looks what is left to wait for. -/
def drain (w : Workshop) (id number : Nat) : Workshop :=
  match w.scheduler.wait w.running with
  | .nothing => { w with board := w.board.finish id none, drained := w.drained ++ [number] }
  | .activities others => { w with board := w.board.await id others .drain }
  | .time duration => { w with board := w.board.sleep id duration .drain }

/-- An activity goes on. -/
def proceed (w : Workshop) (a : Activity Hand Stage) : Workshop :=
  match a.phase, a.role with
  | .ready (.start e), _ => w.start a.id e
  | .ready (.conclude e), _ => w.conclude a.id e
  | .ready .drain, .drain number => w.drain a.id number
  | _, _ => w

/-- An activity leaves; an errand that failed is noted. -/
def leave (w : Workshop) (a : Activity Hand Stage) : Workshop :=
  let w := { w with board := w.board.remove a.id }
  match a.role, a.phase with
  | .errand, .over (some f) => w.note (Scheduler.failedNote f)
  | _, _ => w

/-- Do a job. -/
def perform (w : Workshop) : Job String → Workshop
  | .run id => (w.board.find? id).elim w w.proceed
  | .wake id => { w with board := w.board.wake id }
  | .count id => { w with board := w.board.count id }
  | .ended id => (w.board.find? id).elim w w.leave
  | .fire key =>
    match w.scheduler.take? key with
    | some (e, scheduler) => { w with scheduler, board := w.board.spawn .errand (.start e) }
    | none => w

/-- Do the next job, if there is one. -/
def step (w : Workshop) : Option Workshop :=
  w.board.next?.map fun (j, board) => perform { w with board } j

def machine : Machine Workshop where
  step := step
  nextDue? w := w.board.agenda.nextDue?
  moveTo w time := { w with board := w.board.moveTo time }

end Workshop

end Workbench.Coalescing
