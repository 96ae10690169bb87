import Workbench.Document.Status
import Workbench.Json.Decode
import Workbench.Json.Encode

/-!
# Transform requests and outcomes

A request carries the input text and the specification, decoded where it is JSON and raw where
it is not. An outcome is the service's answer; its metrics are taken as they come, as far as they
can be.
-/
namespace Workbench.Service

open Record

/-- A specification as it is sent. -/
inductive SpecForm where
  | decoded (value : Json.Value)
  | raw (text : String)
  deriving Repr, BEq

/-- A request to transform an input. -/
structure TransformRequest where
  operation : String
  spec : SpecForm
  input : String
  deriving Repr, BEq

namespace TransformRequest

/-- The operation that the studio asks for. -/
def chain : String := "chain"

/-- The request for two drafts: the specification is decoded if it can be. -/
def ofDrafts (input spec : String) : TransformRequest :=
  { operation := chain, input
    spec := match Json.decode spec with
      | .ok v => .decoded v
      | .error _ => .raw spec }

def isDecoded (r : TransformRequest) : Bool :=
  match r.spec with
  | .decoded _ => true
  | .raw _ => false

/-- The body of the request as a value. -/
def body (r : TransformRequest) : Json.Value :=
  .object [("operation", .string r.operation),
    match r.spec with
    | .decoded v => ("chainSpec", v)
    | .raw t => ("spec", .string t),
    ("input", .string r.input)]

/-- Read a request out of the members of an object: exactly one form of the specification must
be given. -/
def read (ms : Json.Members) : Checked TransformRequest :=
  let decoded := FieldName.get? { name := "chainSpec", otherName := some "chain_spec" } ms
  let parts : Checked (String × Option String × String) :=
    (fun operation spec input => (operation, spec, input))
      <$> defaulted { name := "operation" } readString chain ms
      <*> defaulted { name := "spec" } (optional readString) none ms
      <*> required { name := "input" } readString ms
  parts.andThen fun (operation, spec, input) =>
    match decoded, spec with
    | some v, none => .good { operation, spec := .decoded v, input }
    | none, some t => .good { operation, spec := .raw t, input }
    | _, _ => .flaw .valueError

def ofValue : Json.Value → Checked TransformRequest := ofObject read

end TransformRequest

/-- The service's answer to a transform request. -/
structure Outcome where
  success : Bool
  result : Option String := none
  executionTime : Option Int := none
  rating : Option Document.Rating := none
  memoryUsage : Option Int := none
  error : Option String := none
  deriving DecidableEq, Repr

namespace Outcome

def timeField : FieldName := { name := "executionTime", otherName := some "execution_time_ms" }

/-- An execution time: a number cut to its integer part; anything that is no number is left
out. Not-a-number has no integer part. -/
def readTime : Json.Value → Checked (Option Int)
  | .int i => .good (some i)
  | .float x =>
    match x.truncate? with
    | some i => .good (some i)
    | none => .flaw .valueError
  | _ => .good none

/-- A rating: null is none, and everything else is classified. -/
def readRating : Json.Value → Checked (Option Document.Rating)
  | .null => .good none
  | v => .good (some (.classify v))

def read (ms : Json.Members) : Checked Outcome :=
  Outcome.mk <$> required { name := "success" } readBool ms
    <*> defaulted { name := "result" } (optional readString) none ms
    <*> defaulted timeField readTime none ms
    <*> defaulted { name := "complexity" } readRating none ms
    <*> defaulted { name := "memoryUsage", otherName := some "memory_usage" }
          (optional readInt) none ms
    <*> defaulted { name := "error" } (optional readString) none ms

def ofValue : Json.Value → Checked Outcome := ofObject read

/-- Does the answer report an infinite execution time? Such an answer is not read at all. -/
def hasInfiniteTime : Json.Value → Bool
  | .object ms =>
    match timeField.get? ms with
    | some (.float (.infinite _)) => true
    | _ => false
  | _ => false

end Outcome

end Workbench.Service
