import Workbench.Failure
import Workbench.Turn.Agenda

/-!
# The board

Activities that take turns. An activity runs until it has to wait: for a while, or for others to
end. When it ends, its end is noticed one turn later, and only then it leaves the board. Each has a
role, which says whose it is; besides the activities, timers with a key may be on the agenda.
-/
namespace Workbench.Turn

/-- What can be on the agenda. -/
inductive Job (K : Type) where
  /-- The activity goes on. -/
  | run (id : Nat)
  /-- The time that the activity waits for is over. -/
  | wake (id : Nat)
  /-- One of the activities that the activity waits for has ended. -/
  | count (id : Nat)
  /-- The end of the activity is noticed. -/
  | ended (id : Nat)
  /-- The timer with this key fires. -/
  | fire (key : K)
  deriving DecidableEq, Repr

/-- How it stands with an activity. What it does next is a `C`. -/
inductive Phase (C : Type) where
  | ready (next : C)
  | asleep (next : C)
  /-- Waits for that many others to end. -/
  | waiting (count : Nat) (next : C)
  | over (failure : Option Failure)
  deriving Repr

/-- An activity, and those that wait for its end. -/
structure Activity (R C : Type) where
  id : Nat
  role : R
  phase : Phase C
  watchers : List Nat := []
  deriving Repr

/-- Has it ended? -/
def Activity.isOver {R C : Type} (t : Activity R C) : Bool :=
  match t.phase with
  | .over _ => true
  | _ => false

/-- The activities that have not left yet, with the agenda. -/
structure Board (R C K : Type) where
  agenda : Agenda (Job K) := {}
  activities : List (Activity R C) := []
  nextId : Nat := 0
  deriving Repr

namespace Board

variable {R C K : Type}

def find? (b : Board R C K) (id : Nat) : Option (Activity R C) := b.activities.find? (·.id = id)

/-- How it stands with an activity. -/
def phase? (b : Board R C K) (id : Nat) : Option (Phase C) := (b.find? id).map (·.phase)

/-- Change one activity. -/
def modify (b : Board R C K) (id : Nat) (f : Activity R C → Activity R C) : Board R C K :=
  { b with activities := b.activities.map fun t => if t.id = id then f t else t }

def setPhase (b : Board R C K) (id : Nat) (p : Phase C) : Board R C K :=
  b.modify id fun t => { t with phase := p }

def queue (b : Board R C K) (j : Job K) : Board R C K := { b with agenda := b.agenda.queue j }

/-- Queue several jobs. -/
def queueAll (b : Board R C K) (js : List (Job K)) : Board R C K := js.foldl queue b

/-- The activities with a role. -/
def withRole (b : Board R C K) (p : R → Bool) : List (Activity R C) := b.activities.filter (p ·.role)

/-- A new activity; it starts after the jobs that are queued already. -/
def spawn (b : Board R C K) (role : R) (next : C) : Board R C K :=
  { b with
    activities := b.activities ++ [{ id := b.nextId, role, phase := .ready next }]
    nextId := b.nextId + 1
    agenda := b.agenda.queue (.run b.nextId) }

/-- The activity waits for a while. -/
def sleep (b : Board R C K) (id : Nat) (time : Nat) (next : C) : Board R C K :=
  let b := b.setPhase id (.asleep next)
  { b with agenda := b.agenda.arm time (.wake id) }

/-- The activity comes to know of the end of another: now, if that one has ended already. -/
def watch (id : Nat) (b : Board R C K) (other : Activity R C) : Board R C K :=
  if other.isOver then b.queue (.count id)
  else b.modify other.id fun t => { t with watchers := t.watchers ++ [id] }

/-- The activity waits for all of the others. -/
def await (b : Board R C K) (id : Nat) (others : List (Activity R C)) (next : C) : Board R C K :=
  others.foldl (watch id) (b.setPhase id (.waiting others.length next))

/-- The activity ends. -/
def finish (b : Board R C K) (id : Nat) (failure : Option Failure) : Board R C K :=
  let watchers := (b.find? id).elim [] (·.watchers)
  (b.setPhase id (.over failure)).queueAll (.ended id :: watchers.map .count)

/-- The time that the activity waits for is over: it goes on. -/
def wake (b : Board R C K) (id : Nat) : Board R C K :=
  match b.phase? id with
  | some (.asleep next) => (b.setPhase id (.ready next)).queue (.run id)
  | _ => b

/-- One of the activities that it waits for has ended; after the last of them it goes on. -/
def count (b : Board R C K) (id : Nat) : Board R C K :=
  match b.phase? id with
  | some (.waiting n next) =>
    if n ≤ 1 then (b.setPhase id (.ready next)).queue (.run id)
    else b.setPhase id (.waiting (n - 1) next)
  | _ => b

/-- The activity leaves. -/
def remove (b : Board R C K) (id : Nat) : Board R C K :=
  { b with activities := b.activities.filter (·.id ≠ id) }

def now (b : Board R C K) : Nat := b.agenda.now

/-- The next job to be done now. -/
def next? (b : Board R C K) : Option (Job K × Board R C K) :=
  b.agenda.next?.map fun (j, a) => (j, { b with agenda := a })

/-- The board at a later time. -/
def moveTo (b : Board R C K) (time : Nat) : Board R C K :=
  { b with agenda := b.agenda.moveTo time }

def arm (b : Board R C K) (delay : Nat) (key : K) : Board R C K :=
  { b with agenda := b.agenda.arm delay (.fire key) }

def disarm [DecidableEq K] (b : Board R C K) (key : K) : Board R C K :=
  { b with agenda := b.agenda.disarm (.fire key) }

end Board

end Workbench.Turn
