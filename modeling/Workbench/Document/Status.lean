import Workbench.Record.Field

/-!
# Buffers and their status

A session holds three documents. Each has a status line: a short label, a level of severity and
perhaps a longer explanation.
-/
namespace Workbench.Document

/-- The two documents that a user writes. -/
inductive Draft where
  | input
  | spec
  deriving DecidableEq, Repr

/-- The three documents of a session. -/
inductive Buffer where
  | input
  | spec
  | output
  deriving DecidableEq, Repr

def Draft.buffer : Draft → Buffer
  | input => .input
  | spec => .spec

/-- The draft that a buffer is, if it is one. -/
def Buffer.draft? : Buffer → Option Draft
  | input => some .input
  | spec => some .spec
  | output => none

def Buffer.name : Buffer → String
  | input => "input"
  | spec => "spec"
  | output => "output"

def Buffer.named? (s : String) : Option Buffer :=
  [Buffer.input, .spec, .output].find? (·.name == s)

/-- Severity of a status line. -/
inductive Level where
  | valid
  | warning
  | error
  | pending
  deriving DecidableEq, Repr

def Level.name : Level → String
  | valid => "valid"
  | warning => "warning"
  | error => "error"
  | pending => "pending"

def Level.named? (s : String) : Option Level :=
  [Level.valid, .warning, .error, .pending].find? (·.name == s)

/-- The colour in which a status of this level is shown. -/
def Level.style : Level → String
  | valid => "green"
  | warning => "yellow"
  | error => "red"
  | pending => "dim"

/-- A status line. -/
structure Status where
  label : String
  level : Level
  detail : Option String := none
  deriving DecidableEq, Repr

namespace Status

def ready : Status := { label := "Ready", level := .valid }

def required : Status := { label := "Required", level := .warning }

def validating : Status := { label := "Validating...", level := .pending }

def transforming : Status := { label := "Transforming...", level := .pending }

def error (label : String) (detail : Option String) : Status :=
  { label, level := .error, detail }

/-- The status of a blank draft: an empty input is fine, an empty specification is not. -/
def ofBlank : Draft → Status
  | .input => ready
  | .spec => required

/-- The detail, unless it is empty. -/
def detail? (s : Status) : Option String :=
  match s.detail with
  | some "" => none
  | d => d

/-- Read a status out of the members of an object. -/
def read (ms : Json.Members) : Record.Checked Status :=
  Status.mk <$> Record.required { name := "label" } Record.readString ms
    <*> Record.required { name := "level" } (Record.readNamed Level.named?) ms
    <*> Record.defaulted { name := "detail" } (Record.optional Record.readString) none ms

end Status

/-- How complex the service found a transformation to be. -/
inductive Rating where
  | low
  | medium
  | high
  | unknown
  deriving DecidableEq, Repr

namespace Rating

def all : List Rating := [low, medium, high, unknown]

def name : Rating → String
  | low => "Low"
  | medium => "Medium"
  | high => "High"
  | unknown => "Unknown"

def named? (s : String) : Option Rating := all.find? (·.name == s)

/-- The rating that a value sent by the service stands for: its name in any letter case and with
white space around it. Everything else is unknown. -/
def classify : Json.Value → Rating
  | .string s => (all.find? fun r => Text.sameLower (Text.strip s) r.name).getD unknown
  | _ => unknown

end Rating

end Workbench.Document
