/-!
# The agenda

What is to be done next, and what at a later time. Jobs are done in turns: a turn is made of the
jobs queued so far, first in first out, and then of the alarms that are due; a job queued during a
turn waits for the next one. Time is counted in microseconds and only moves when nothing is left
to be done at the present moment.
-/
namespace Workbench.Turn

/-- A job for a later time. -/
structure Alarm (J : Type) where
  due : Nat
  job : J
  deriving DecidableEq, Repr

/-- The present time, the rest of the current turn, the jobs queued for the next one, and the
alarms: by time, and in the order they were armed where the time is the same. -/
structure Agenda (J : Type) where
  now : Nat := 0
  turn : List J := []
  queued : List J := []
  alarms : List (Alarm J) := []
  deriving Repr

namespace Agenda

variable {J : Type}

/-- Queue a job. -/
def queue (a : Agenda J) (j : J) : Agenda J := { a with queued := a.queued ++ [j] }

/-- Put an alarm behind those that are due no later. -/
def insertAlarm (x : Alarm J) : List (Alarm J) → List (Alarm J)
  | [] => [x]
  | y :: ys => if y.due ≤ x.due then y :: insertAlarm x ys else x :: y :: ys

/-- Arm an alarm that is due after a while. -/
def arm (a : Agenda J) (delay : Nat) (j : J) : Agenda J :=
  { a with alarms := insertAlarm ⟨a.now + delay, j⟩ a.alarms }

/-- Take a job off the agenda, whether its alarm has gone off or not. -/
def disarm [DecidableEq J] (a : Agenda J) (j : J) : Agenda J :=
  { a with
    turn := a.turn.filter (· ≠ j)
    queued := a.queued.filter (· ≠ j)
    alarms := a.alarms.filter (·.job ≠ j) }

/-- Is the alarm due by now? -/
def isDue (a : Agenda J) (x : Alarm J) : Bool := x.due ≤ a.now

/-- The jobs of the next turn. -/
def nextTurn (a : Agenda J) : List J := a.queued ++ (a.alarms.takeWhile a.isDue).map (·.job)

/-- The next job to be done now, and the agenda without it. -/
def next? (a : Agenda J) : Option (J × Agenda J) :=
  match a.turn with
  | j :: rest => some (j, { a with turn := rest })
  | [] =>
    match a.nextTurn with
    | [] => none
    | j :: rest =>
      some (j, { a with turn := rest, queued := [], alarms := a.alarms.dropWhile a.isDue })

/-- The agenda at a later time. -/
def moveTo (a : Agenda J) (time : Nat) : Agenda J := { a with now := max a.now time }

/-- The time of the next alarm. -/
def nextDue? (a : Agenda J) : Option Nat := a.alarms.head?.map (·.due)

end Agenda

end Workbench.Turn
