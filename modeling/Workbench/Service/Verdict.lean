import Workbench.Record.Field

/-!
# Verdicts of the validation endpoints

What the service says of a draft: whether it is acceptable, a short message, and perhaps more.
-/
namespace Workbench.Service

/-- The service's verdict on a draft. -/
structure Verdict where
  valid : Bool
  message : String := ""
  details : Option String := none
  level : Option String := none
  line : Option Int := none
  column : Option Int := none
  deriving DecidableEq, Repr

namespace Verdict

open Record

/-- The text to show under the status line: message and details, or whichever there is. -/
def detailText (v : Verdict) : String :=
  let details := v.details.getD ""
  if !v.message.isEmpty && !details.isEmpty && details != v.message then
    v.message ++ ": " ++ details
  else if details.isEmpty then v.message
  else details

/-- The detail text, unless it is empty. -/
def detail? (v : Verdict) : Option String :=
  let t := v.detailText
  if t.isEmpty then none else some t

/-- Does the verdict carry a warning? -/
def isWarning (v : Verdict) : Bool := Text.sameUpper (v.level.getD "") "WARNING"

def read (ms : Json.Members) : Checked Verdict :=
  Verdict.mk <$> required { name := "valid" } readBool ms
    <*> defaulted { name := "message" } readString "" ms
    <*> defaulted { name := "details" } (optional readString) none ms
    <*> defaulted { name := "level" } (optional readString) none ms
    <*> defaulted { name := "line" } (optional readInt) none ms
    <*> defaulted { name := "column" } (optional readInt) none ms

/-- Read a verdict out of a decoded answer. -/
def ofValue : Json.Value → Checked Verdict := ofObject read

end Verdict

end Workbench.Service
