import Workbench.Document.Status
import Workbench.Service.Exchange

/-!
# The history of a session

What has happened in a session, in the order in which it did: which texts the drafts got, when the
automatic transform was switched and when it set off, which requests went out, how calls ended, and
when the session was closed.
-/
namespace Workbench.Session

open Document (Draft)

/-- A request and the time at which it was sent. -/
structure Sent where
  time : Nat
  outgoing : Service.Outgoing
  deriving DecidableEq, Repr

/-- Something that has happened. -/
inductive Happening where
  /-- A draft got a text. -/
  | edited (time : Nat) (draft : Draft) (text : String)
  /-- A text was put into a draft while a change in its editor was still to be applied. -/
  | overtook (draft : Draft)
  /-- The automatic transform was armed or disarmed. -/
  | switched (armed : Bool)
  /-- The session itself asked for a transform. -/
  | triggered
  /-- A request went out, and this comes back for it. -/
  | sent (sent : Sent) (reply : Service.Reply)
  /-- The request of a call could not be sent. -/
  | refused (call : Service.Call) (failure : Failure)
  /-- The validation of a text of a draft ended. -/
  | judged (draft : Draft) (text : String) (result : Except Failure Service.Verdict)
  /-- A transform began. -/
  | began (generation : Nat) (request : Service.TransformRequest)
  /-- The call of a transform ended. -/
  | answered (generation : Nat) (result : Except Failure Service.Outcome)
  /-- The session was closed, and the texts that waited for validation were dropped. -/
  | closed (dropped : List (Draft × String))

/-- The request that was sent, if that is what happened. -/
def Happening.sent? : Happening → Option Sent
  | .sent s _ => some s
  | _ => none

end Workbench.Session
