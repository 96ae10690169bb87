import Workbench.Service.Client

/-!
# Exchanges with the service

A call of the client from its request to its result: the request is prepared, sent, and the reply
is read.
-/
namespace Workbench.Service

/-- What the client can be asked to do. -/
inductive Call where
  | validate (draft : Document.Draft) (text : String)
  | transform (request : TransformRequest)
  | operations

/-- What comes of a call. -/
inductive CallResult where
  | verdict (v : Verdict)
  | outcome (o : Outcome)
  | names (names : List String)

namespace Call

/-- Where a call goes. -/
def endpoint : Call → Endpoint
  | validate d _ => .validate d
  | transform _ => .transform
  | operations => .operations

/-- The request of a call; none if its body cannot be written. -/
def request? : Call → Option Request
  | validate d text => some (.validate d text)
  | transform r => Request.transform? r
  | operations => some .operations

/-- The notes made before the request is sent. -/
def notes : Call → List Note
  | validate d _ => [Client.sendingNote (.validate d)]
  | transform _ => [Client.sendingNote .transform]
  | operations => []

/-- The result in a reply. -/
def read : Call → Reaction → List Note × Except Failure CallResult
  | validate d _, r => (Client.readVerdict d r).map id (·.map .verdict)
  | transform _, r => (Client.readOutcome r).map id (·.map .outcome)
  | operations, r => ([], (Client.readOperations r).map .names)

end Call

/-- What becomes of a reaction: an answer is kept under the origin of its address, and without one
it breaks. -/
def Outgoing.keep (o : Outgoing) : Reaction → Reaction
  | .answer status body =>
    match o.url.originFault? with
    | none => .answer status body
    | some fault => .broken .value fault.message
  | r => r

/-- Send a call: the request that went out, its reply, and the service from then on. -/
def Client.send (c : Client) (server : Server) (call : Call) :
    Except Failure (Outgoing × Reply × Server) := do
  let out ← c.prepare call.endpoint call.request?
  let (reply, server) := server.reply out.request
  pure (out, { reply with reaction := out.keep reply.reaction }, server)

/-- What happens in a call: the notes, the request if it was sent, the result, and the service
from then on. -/
structure Exchange where
  notes : List Note
  sent : Option Outgoing
  result : Except Failure CallResult
  server : Server

/-- Make a call. -/
def Client.exchange (c : Client) (server : Server) (call : Call) : Exchange :=
  match c.send server call with
  | .error f => { notes := call.notes, sent := none, result := .error f, server }
  | .ok (out, reply, server) =>
    let (notes, result) := call.read reply.reaction
    { notes := call.notes ++ notes, sent := some out, result, server }

end Workbench.Service
