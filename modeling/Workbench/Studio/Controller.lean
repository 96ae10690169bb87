import Workbench.Session.Run
import Workbench.Studio.Screen

/-!
# The controller of the studio

What the terminal studio does with what the user does: typing, buttons, the switch, keys. Its text
areas are the editors of a session; a text that the session puts into one is reported in a turn of
its own. Actions of the session run as activities, so that the studio never waits for one.
-/
namespace Workbench

open Document (Buffer Draft)
open Session (Action Editor)

namespace Studio

/-- What the studio is called. -/
def title : String := "J2J Transform Studio"

/-- The name of a buffer's text area. -/
def editorName : Buffer → String
  | .input => "input-editor"
  | .spec => "spec-editor"
  | .output => "output-editor"

def buffers : List Buffer := [.input, .spec, .output]

/-- The buttons. -/
inductive Button where
  | transform
  | view
  | format (draft : Draft)
  | clear (draft : Draft)
  deriving DecidableEq, Repr

namespace Button

def all : List Button :=
  [transform, view, format .input, format .spec, clear .input, clear .spec]

def name : Button → String
  | transform => "btn-transform"
  | view => "btn-view"
  | format .input => "btn-format-input"
  | format .spec => "btn-format-spec"
  | clear .input => "btn-clear-input"
  | clear .spec => "btn-clear-spec"

def named? (s : String) : Option Button := all.find? (·.name == s)

end Button

/-- What a key stands for. -/
inductive Command where
  | transform
  | toggleView
  | format
  deriving DecidableEq, Repr

namespace Command

def all : List Command := [transform, toggleView, format]

def name : Command → String
  | transform => "transform"
  | toggleView => "toggle_view"
  | format => "format"

def named? (s : String) : Option Command := all.find? (·.name == s)

end Command

/-- The name of the switch of the automatic transform. -/
def switchName : String := "auto-transform"

end Studio

open Studio

/-- The studio: its session, the part that has the focus, and the number of actions started. -/
structure Studio where
  session : Session Screen
  focus : Option String := none
  started : Nat := 0

namespace Studio

/-- A text area, empty at first. -/
def textArea (b : Buffer) : Editor :=
  { value := "", readOnly := b == .output, echo := .later }

/-- A studio that is not on the screen yet; the window is in microseconds. -/
def new (settings : Settings) (window : Nat) (armed : Bool) (client : Service.Client)
    (server : Service.Server) : Studio :=
  let s : Session Screen := Session.new settings window armed client server false false {}
  { session := { s with editors := buffers.map fun b => (editorName b, textArea b) } }

/-- How the studio's screen follows the session. -/
def view (a : Studio) : Session.View Screen := Screen.follow a.session.settings

/-- Start an action of the session. -/
def launch (a : Studio) (action : Action) : Studio :=
  { a with session := a.session.launch a.started [action], started := a.started + 1 }

/-- Change the screen. -/
def draw (a : Studio) (f : Screen → Screen) : Studio :=
  { a with session := { a.session with view := f a.session.view } }

/-- The studio comes on the screen: the screen follows the session, the text areas are attached,
and the input has the focus. -/
def mount (a : Studio) : Except Failure Studio :=
  if a.session.watched then .error (.handlerTaken Session.EventType.stateChanged.name)
  else
    let session := { a.session with watched := true }
    let session := buffers.foldl (fun s b => s.attach b (editorName b)) session
    let a := { a with session }
    .ok { a.draw (Screen.refresh session.store) with focus := some (editorName .input) }

/-- The studio goes off the screen. -/
def unmount (a : Studio) : Studio := { a with session := a.session.close }

/-- The user types into a text area. -/
def type (a : Studio) (name text : String) : Studio :=
  { a with session := a.session.typeInto name text }

/-- Change between the tree and the raw text of the output. -/
def toggleView (a : Studio) : Studio :=
  let a := a.draw Screen.toggle
  if a.session.view.treeVisible then
    a.draw (Screen.drawTree a.session.settings a.session.store)
  else a

def press (a : Studio) : Button → Studio
  | .transform => a.launch .requestTransform
  | .view => a.toggleView
  | .format d => a.launch (.format d.buffer)
  | .clear d => a.launch (.clear d)

/-- The draft whose text area has the focus. -/
def focused? (a : Studio) : Option Draft :=
  [Draft.input, .spec].find? fun d => a.focus = some (editorName d.buffer)

def perform (a : Studio) : Command → Studio
  | .transform => a.launch .requestTransform
  | .toggleView => a.toggleView
  | .format =>
    match a.focused? with
    | some d => a.launch (.format d.buffer)
    | none => a

/-- The switch of the automatic transform is set. -/
def setArmed (a : Studio) (armed : Bool) : Studio := a.launch (.setArmed armed)

/-- What the button for the view is called. -/
def viewLabel (a : Studio) : String :=
  if a.session.view.treeVisible then "Raw view" else "Tree view"

/-- The studio after its session has gone on. -/
def run (a : Studio) (f : Turn.Machine (Session Screen) → Session Screen → Session Screen) :
    Studio :=
  { a with session := f (Session.machine a.view) a.session }

end Studio

end Workbench
