import Workbench.Service.Transform
import Workbench.Url.Origin

/-!
# Requests to the service

The four endpoints and what is sent to each: an input draft as it stands, a specification as an
opaque string, a transform request as JSON, and a bare question for the list of operations.
-/
namespace Workbench.Service

/-- What the service can be asked. -/
inductive Endpoint where
  | validateInput
  | validateSpec
  | transform
  | operations
  deriving DecidableEq, Repr

namespace Endpoint

def path : Endpoint → String
  | validateInput => "/api/transform/validate/json"
  | validateSpec => "/api/transform/validate/spec"
  | transform => "/api/transform"
  | operations => "/api/transform/operations"

/-- The endpoint that validates a draft. -/
def validate : Document.Draft → Endpoint
  | .input => validateInput
  | .spec => validateSpec

end Endpoint

/-- A request: where it goes and the body, if it has one. -/
structure Request where
  endpoint : Endpoint
  body : Option String
  deriving DecidableEq, Repr

namespace Request

def method (r : Request) : String :=
  match r.body with
  | some _ => "POST"
  | none => "GET"

/-- The type of the body. -/
def contentType? (r : Request) : Option String := r.body.map fun _ => "application/json"

/-- The input is sent as it stands. -/
def validateInput (text : String) : Request := ⟨.validateInput, some text⟩

/-- The body that carries a specification as an opaque string. -/
def specBody (text : String) : Json.Value :=
  .object [("operation", .string TransformRequest.chain), ("chainSpec", .string text)]

def validateSpec (text : String) : Request := ⟨.validateSpec, some (Json.compact (specBody text))⟩

/-- The request that validates a draft. -/
def validate : Document.Draft → String → Request
  | .input => validateInput
  | .spec => validateSpec

/-- A transform request; none if it holds a number that JSON cannot express. -/
def transform? (r : TransformRequest) : Option Request :=
  if Json.hasNonFinite r.body then none else some ⟨.transform, some (Json.compact r.body)⟩

def operations : Request := ⟨.operations, none⟩

end Request

/-- A request on its way to an address. -/
structure Outgoing where
  url : Url
  request : Request
  deriving DecidableEq, Repr

end Workbench.Service
