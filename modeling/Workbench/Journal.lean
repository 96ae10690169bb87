import Workbench.Json.Value

/-!
# The journal

Notes that the program leaves on its doings, each with a severity, a fixed event text and a few
named values.
-/
namespace Workbench

/-- How serious a note is. -/
inductive Severity where
  | debug
  | info
  | warning
  | error
  deriving DecidableEq, Repr

def Severity.name : Severity → String
  | debug => "debug"
  | info => "info"
  | warning => "warning"
  | error => "error"

def Severity.rank : Severity → Nat
  | debug => 0
  | info => 1
  | warning => 2
  | error => 3

/-- A note in the journal. -/
structure Note where
  severity : Severity
  event : String
  context : Json.Members := []
  deriving Repr

namespace Note

def debug (event : String) (context : Json.Members) : Note := ⟨.debug, event, context⟩

def info (event : String) (context : Json.Members) : Note := ⟨.info, event, context⟩

def warning (event : String) (context : Json.Members) : Note := ⟨.warning, event, context⟩

def error (event : String) (context : Json.Members) : Note := ⟨.error, event, context⟩

/-- Is the note at least this serious? -/
def atLeast (n : Note) (s : Severity) : Bool := s.rank ≤ n.severity.rank

end Note

end Workbench
