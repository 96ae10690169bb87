import Workbench.Failure
import Workbench.Service.Request

/-!
# Replies of the service

What comes back for a request, after how long: an answer with a status and bytes, a time-out or
another fault of the transport, or a breakage outside of it. A `Service` decides the reply to
each request; replies lined up for an endpoint are given first.
-/
namespace Workbench.Service

/-- What comes back for a request. -/
inductive Reaction where
  | answer (status : Nat) (body : List Nat)
  | timeout
  | fault (name message : String)
  | broken (sort : Breakage) (message : String)
  deriving DecidableEq, Repr

/-- A reaction and the time it takes, in microseconds. -/
structure Reply where
  delay : Nat
  reaction : Reaction
  deriving DecidableEq, Repr

/-- The behaviour of the service from now on: replies lined up for each endpoint, and the usual
reply once they are used up. -/
structure Server where
  queue : Endpoint → List Reply
  usual : Request → Reply

namespace Server

/-- The reply to a request, and the service after it. -/
def reply (s : Server) (r : Request) : Reply × Server :=
  match s.queue r.endpoint with
  | [] => (s.usual r, s)
  | first :: rest =>
    (first, { s with queue := fun e => if e = r.endpoint then rest else s.queue e })

/-- Line up more replies for an endpoint. -/
def lineUp (s : Server) (endpoint : Endpoint) (replies : List Reply) : Server :=
  { s with queue := fun e => if e = endpoint then s.queue e ++ replies else s.queue e }

end Server

end Workbench.Service
