import Workbench.Document.Status

/-!
# Editors

An editor holds a text that a user may change. It reports changes to the drafts that listen to it.
Editors differ in when they report a text that is put into them by the program and not by the user.
-/
namespace Workbench.Session

/-- When an editor reports a text that the program put in. -/
inductive Echo where
  /-- In the same moment, while the program can still tell that the change is its own. -/
  | atOnce
  | never
  /-- In a turn of its own. -/
  | later
  deriving DecidableEq, Repr

/-- An editor, the drafts that listen to it, and the texts that it has reported. -/
structure Editor where
  value : String
  readOnly : Bool
  echo : Echo
  listeners : List Document.Draft := []
  reported : List String := []
  deriving DecidableEq, Repr

namespace Editor

/-- Put a text in. -/
def load (e : Editor) (text : String) : Editor :=
  match e.echo with
  | .atOnce => { e with value := text, reported := e.reported ++ [text] }
  | _ => { e with value := text }

/-- Report the text as it is. -/
def report (e : Editor) : Editor := { e with reported := e.reported ++ [e.value] }

end Editor

/-- Editors by name. -/
abbrev Editors := List (String × Editor)

namespace Editors

def find? (es : Editors) (name : String) : Option Editor := es.lookup name

/-- Change the editor with a name. -/
def modify (es : Editors) (name : String) (f : Editor → Editor) : Editors :=
  es.map fun (n, e) => if n = name then (n, f e) else (n, e)

end Editors

end Workbench.Session
