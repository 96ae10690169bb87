import Workbench.Hostname.Fault
import Workbench.Json.Error
import Workbench.Url.Fault

/-!
# Failures

Every way in which an action of the program can fail, with one wording each. `typeName` is the
word that the journal uses for the sort of failure.
-/
namespace Workbench

/-- How the machinery under the client can break other than by a transport fault. -/
inductive Breakage where
  | value
  | runtime
  deriving DecidableEq, Repr

/-- A failed action. -/
inductive Failure where
  /-- The service could not be reached, or its answer could not be used. -/
  | transport (endpoint reason : String)
  /-- A transform was asked for without something to transform. -/
  | precondition (reason : String)
  /-- A text is no address. -/
  | invalidUrl (fault : Url.Fault)
  /-- The request holds a number that JSON cannot express. -/
  | notCompliant
  /-- The host of an address encodes no name. -/
  | invalidName (fault : Hostname.Fault)
  /-- The host of an address is not ASCII. -/
  | notAscii (host : List Char)
  /-- The client has been closed. -/
  | closedClient
  /-- The answer nests too deep to be decoded. -/
  | tooDeep (container : Json.Container)
  /-- The answer reports an infinite execution time. -/
  | infiniteTime
  /-- Something under the client broke. -/
  | broken (sort : Breakage) (message : String)
  /-- A view handler broke. -/
  | view (message : String)
  /-- The buffer has no name to report. -/
  | unnamedBuffer
  /-- There is no editor with this name. -/
  | unknownEditor (name : String)
  /-- A handler is registered for this type of event already. -/
  | handlerTaken (event : String)
  /-- A word that names none of the members of a set. -/
  | notMember (word set : String)
  /-- The output has no snapshot. -/
  | noSnapshot (reason : String)
  /-- The coalescing window is negative. -/
  | negativeWindow
  /-- A number beyond all floating-point numbers. -/
  | hugeNumber
  deriving DecidableEq, Repr

namespace Failure

/-- The message about a host that is not ASCII: it names the characters, or where they are if there
are several side by side. -/
def notAsciiMessage (host : List Char) : String :=
  let start := (host.takeWhile (·.toNat < 0x80)).length
  let foreign := (host.drop start).takeWhile (0x80 ≤ ·.toNat)
  let what := match foreign with
    | [c] => "character '" ++ String.ofList (Text.numbered c) ++ "' in position " ++ toString start
    | _ => "characters in position " ++ toString start ++ "-" ++
      toString (start + foreign.length - 1)
  "'ascii' codec can't encode " ++ what ++ ": ordinal not in range(128)"

def message : Failure → String
  | transport endpoint reason => "Request to " ++ endpoint ++ " failed: " ++ reason
  | precondition reason => reason
  | invalidUrl fault => fault.message
  | notCompliant => "Out of range float values are not JSON compliant"
  | invalidName fault => fault.message
  | notAscii host => notAsciiMessage host
  | closedClient => "Cannot send a request, as the client has been closed."
  | tooDeep c => (Json.DecodeError.tooDeep c).message
  | infiniteTime => "cannot convert float infinity to integer"
  | broken _ message => message
  | view message => message
  | unnamedBuffer => "the output has no name to report"
  | unknownEditor name => "there is no editor " ++ name
  | handlerTaken event => "Handler already registered for " ++ event
  | notMember word set => "'" ++ word ++ "' is not a valid " ++ set
  | noSnapshot reason => reason
  | negativeWindow => "window_s must be non-negative"
  | hugeNumber => "int too large to convert to float"

def typeName : Failure → String
  | transport .. => "TransportError"
  | precondition _ => "PreconditionError"
  | invalidUrl _ => "InvalidURL"
  | notCompliant => "ValueError"
  | invalidName fault => fault.typeName
  | notAscii _ => "UnicodeEncodeError"
  | closedClient => "RuntimeError"
  | tooDeep _ => "RecursionError"
  | infiniteTime => "OverflowError"
  | broken .value _ => "ValueError"
  | broken .runtime _ => "RuntimeError"
  | view _ => "RuntimeError"
  | unnamedBuffer => "KeyError"
  | unknownEditor _ => "KeyError"
  | handlerTaken _ => "ValueError"
  | notMember .. => "ValueError"
  | noSnapshot _ => "ValueError"
  | negativeWindow => "ValueError"
  | hugeNumber => "OverflowError"

end Failure

end Workbench
