import Workbench.Document.Status

/-!
# Events of a session

Every user action and every change of state is an event. User actions are a draft being edited,
a transform being asked for, and the automatic transform being switched; the view is told of
changed state and of notices.
-/
namespace Workbench.Session

open Record

/-- What sort of event it is. -/
inductive EventType where
  | bufferEdited
  | transformRequested
  | autoTransformToggled
  | stateChanged
  | notice
  deriving DecidableEq, Repr

namespace EventType

def all : List EventType :=
  [bufferEdited, transformRequested, autoTransformToggled, stateChanged, notice]

def name : EventType → String
  | bufferEdited => "buffer_edited"
  | transformRequested => "transform_requested"
  | autoTransformToggled => "auto_transform_toggled"
  | stateChanged => "state_changed"
  | notice => "notice"

def named? (s : String) : Option EventType := all.find? (·.name == s)

end EventType

/-- How serious a notice to the user is. -/
inductive NoticeLevel where
  | info
  | success
  | warning
  | error
  deriving DecidableEq, Repr

namespace NoticeLevel

def name : NoticeLevel → String
  | info => "info"
  | success => "success"
  | warning => "warning"
  | error => "error"

def named? (s : String) : Option NoticeLevel :=
  [info, success, warning, error].find? (·.name == s)

/-- The colour in which a notice of this level is shown. -/
def style : NoticeLevel → String
  | info => "dim"
  | success => "green"
  | warning => "yellow"
  | error => "red"

end NoticeLevel

/-- An event with what it carries; a time is kept only where one was given. -/
structure Event where
  type : EventType
  buffer : Option Document.Buffer := none
  text : Option String := none
  /-- The edit was made in the attached editor. -/
  fromEditor : Bool := false
  armed : Option Bool := none
  message : Option String := none
  level : Option NoticeLevel := none
  timestamp : Option Number.Binary64 := none
  deriving DecidableEq, Repr

namespace Event

def edited (buffer : Document.Buffer) (text : String) (fromEditor : Bool) : Event :=
  { type := .bufferEdited, buffer := some buffer, text := some text, fromEditor }

def transformRequested : Event := { type := .transformRequested }

def toggled (armed : Bool) : Event := { type := .autoTransformToggled, armed := some armed }

def stateChanged (buffer : Document.Buffer) : Event :=
  { type := .stateChanged, buffer := some buffer }

def notice (message : String) (level : NoticeLevel) : Event :=
  { type := .notice, message := some message, level := some level }

/-- Read an event out of the members of an object. -/
def read (ms : Json.Members) : Checked Event :=
  Event.mk <$> required { name := "event_type" } (readNamed EventType.named?) ms
    <*> defaulted { name := "buffer" } (optional (readNamed Document.Buffer.named?)) none ms
    <*> defaulted { name := "text" } (optional readString) none ms
    <*> defaulted { name := "from_editor" } readBool false ms
    <*> defaulted { name := "armed" } (optional readBool) none ms
    <*> defaulted { name := "message" } (optional readString) none ms
    <*> defaulted { name := "level" } (optional (readNamed NoticeLevel.named?)) none ms
    <*> defaulted { name := "timestamp" } (fun v => (readFloat v).map some) none ms

def ofValue : Json.Value → Checked Event := ofObject read

end Event

end Workbench.Session
