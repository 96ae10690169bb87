import Workbench.Json.Decode
import Workbench.Text.Encoding

/-!
# JSON in bytes

The body of a response: bytes in one of the Unicode encodings that hold a JSON text.
-/
namespace Workbench.Json

/-- Why a payload was refused. -/
inductive PayloadError where
  | undecodable (cause : Text.Undecodable)
  | refused (cause : DecodeError)
  deriving DecidableEq, Repr

def PayloadError.message : PayloadError → String
  | undecodable cause => cause.message
  | refused cause => cause.message

/-- Is it a limit on nesting, which is no fault of the payload? -/
def PayloadError.isTooDeep : PayloadError → Bool
  | undecodable _ => false
  | refused cause => cause.isTooDeep

/-- Decode a payload. -/
def decodePayload (bytes : List Nat) : Except PayloadError Value :=
  match Text.decodePayload bytes with
  | .error cause => .error (.undecodable cause)
  | .ok text =>
    match decodeChars text with
    | .error cause => .error (.refused cause)
    | .ok v => .ok v

end Workbench.Json
