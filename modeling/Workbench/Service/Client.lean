import Workbench.Journal
import Workbench.Json.Payload
import Workbench.Service.Reply
import Workbench.Service.Verdict
import Workbench.Tree.Node

/-!
# The client

How the client turns a reply of the service into a result. A failure status with a JSON body is
an ordinary answer; only an unreachable service, a time-out, or an answer that cannot be used is
a transport failure.
-/
namespace Workbench.Service

/-- The client's state: where the service is, and whether the client is still open. -/
structure Client where
  base : Url
  closed : Bool := false
  deriving DecidableEq, Repr

namespace Client

/-- An address or why it is none, as the client fails. -/
def takeUrl {α : Type} : Except Url.Fault α → Except Failure α
  | .ok u => .ok u
  | .error fault => .error (.invalidUrl fault)

/-- A client of the service at an address. -/
def ofAddress (address : String) : Except Failure Client := do
  let base ← takeUrl ((Url.ofText address.toList).bind Url.asBase)
  pure { base }

def endpointContext (e : Endpoint) : Json.Members := [("endpoint", .string e.path)]

/-- The note made before a request with a body is sent. -/
def sendingNote (e : Endpoint) : Note := .debug "Sending service request" (endpointContext e)

/-- The reason given for a fault: its message, or its name if it has none. -/
def faultReason (name message : String) : String := if message.isEmpty then name else message

def timeoutReason : String := "Request timed out"

/-- A transport failure of a request, with its note. -/
def unreachable (e : Endpoint) (reason : String) : List Note × Except Failure Json.Value :=
  ([.warning "Service request failed" (endpointContext e ++ [("error", .string reason)])],
    .error (.transport e.path reason))

/-- The decoded body of a reply to a request with a body. The status does not matter. -/
def readPosted (e : Endpoint) : Reaction → List Note × Except Failure Json.Value
  | .answer status body =>
    match Json.decodePayload body with
    | .ok v => ([], .ok v)
    | .error (.refused (.tooDeep c)) => ([], .error (.tooDeep c))
    | .error _ =>
      ([.warning "Undecodable service response"
          (endpointContext e ++ [("status", .int status)])],
        .error (.transport e.path ("HTTP " ++ toString status ++ ": response body is not JSON")))
  | .timeout => unreachable e timeoutReason
  | .fault name message => unreachable e (faultReason name message)
  | .broken sort message => ([], .error (.broken sort message))

/-- A record out of a decoded body. -/
def parse {α : Type} (e : Endpoint) : Record.Checked α → Except Failure α
  | .good a => .ok a
  | .flawed fs =>
    .error (.transport e.path
      ("Unexpected response body: " ++ toString fs.length ++ " field error(s)"))

/-- The verdict in a reply to a validation request. -/
def readVerdict (d : Document.Draft) (r : Reaction) : List Note × Except Failure Verdict :=
  let e := Endpoint.validate d
  match readPosted e r with
  | (notes, .ok v) => (notes, parse e (Verdict.ofValue v))
  | (notes, .error f) => (notes, .error f)

/-- The outcome in a reply to a transform request. -/
def readOutcome (r : Reaction) : List Note × Except Failure Outcome :=
  match readPosted .transform r with
  | (notes, .ok v) =>
    if Outcome.hasInfiniteTime v then (notes, .error .infiniteTime)
    else (notes, parse .transform (Outcome.ofValue v))
  | (notes, .error f) => (notes, .error f)

def isSuccess (status : Nat) : Bool := 200 ≤ status && status < 300

/-- The names in a reply to the question for operations. Here the status does matter. -/
def readOperations (r : Reaction) : Except Failure (List String) :=
  let refuse (reason : String) : Except Failure (List String) :=
    .error (.transport Endpoint.operations.path reason)
  match r with
  | .answer status body =>
    if !isSuccess status then refuse ("HTTP " ++ toString status)
    else
      match Json.decodePayload body with
      | .ok (.array vs) => .ok (vs.map fun v => (Tree.Node.ofJson v).display)
      | .ok _ => refuse "Expected a list of operations"
      | .error (.refused (.tooDeep c)) => .error (.tooDeep c)
      | .error e => refuse ("Invalid response body: " ++ e.message)
  | .timeout => refuse timeoutReason
  | .fault name message => refuse (faultReason name message)
  | .broken .value message => refuse ("Invalid response body: " ++ message)
  | .broken .runtime message => .error (.broken .runtime message)

/-- Why the host of an address cannot be written into a request: what it encodes is no name, or it
is not ASCII. -/
def hostFailure? (url : Url) : Option Failure :=
  ((Hostname.readingFault? url.host).map Failure.invalidName).or
    (if url.hostText.any (0x80 ≤ ·.toNat) then some (.notAscii url.hostText) else none)

/-- A request to an endpoint ready to be sent, or why it is not: there is no such address, the body
or the host cannot be written, or the client is closed. Only the question for operations takes a
fault of the host for one of the transport. -/
def prepare (c : Client) (e : Endpoint) (request : Option Request) : Except Failure Outgoing := do
  let url ← takeUrl (c.base.below e.path.toList)
  match request, hostFailure? url with
  | none, _ => throw .notCompliant
  | some .operations, some f => throw (.transport e.path ("Invalid response body: " ++ f.message))
  | _, some f => throw f
  | some request, none => if c.closed then throw .closedClient else pure { url, request }

def close (c : Client) : Client := { c with closed := true }

end Client

end Workbench.Service
