import Workbench.Journal
import Workbench.Failure
import Workbench.Session.Event

/-!
# The event bus

At most one handler for each type of event, in the order of registration. An event goes to the
handler of its type; one without a handler is dropped.
-/
namespace Workbench.Session

/-- The handlers by the type of event that they handle. -/
structure Bus (H : Type) where
  handlers : List (EventType × H) := []
  deriving Repr

namespace Bus

variable {H : Type}

def find? (b : Bus H) (t : EventType) : Option H := b.handlers.lookup t

def hasHandler (b : Bus H) (t : EventType) : Bool := (b.find? t).isSome

/-- Register the handler of a type that has none yet. -/
def register (b : Bus H) (t : EventType) (h : H) : Except Failure (Bus H) :=
  if b.hasHandler t then .error (.handlerTaken t.name)
  else .ok ⟨b.handlers ++ [(t, h)]⟩

def unregister (b : Bus H) (t : EventType) : Bus H := ⟨b.handlers.filter (·.1 ≠ t)⟩

/-- The types that have a handler. -/
def types (b : Bus H) : List EventType := b.handlers.map Prod.fst

def typeContext (e : Event) : Json.Members := [("event_type", .string e.type.name)]

def dropNote (e : Event) : Note := .debug "Event dropped, no handler" (typeContext e)

def dispatchNote (e : Event) : Note :=
  .debug "Event dispatched" (typeContext e ++
    [("buffer", match e.buffer with
      | some b => .string b.name
      | none => .null)])

/-- Hand an event to its handler; `dropped` is the result if it has none. -/
def dispatch {m : Type → Type} [Monad m] {α : Type} (b : Bus H) (e : Event)
    (write : Note → m Unit) (run : H → m α) (dropped : α) : m α :=
  match b.find? e.type with
  | some h => do
    write (dispatchNote e)
    run h
  | none => do
    write (dropNote e)
    pure dropped

end Bus

end Workbench.Session
