import Workbench.Session.State

/-!
# Attached editors

How texts get from editors into the session and back. A change in an editor is applied in an
activity of its own; until then the session remembers the text, so that a report of a text that it
knows already is no change. A text put into an editor by the session is known in the same way, and
so never comes back as a change.
-/
namespace Workbench.Session

open Document (Buffer Draft)

variable {V : Type}

/-- The latest text known to be in a draft's editor; the draft's own text before any. -/
def knownText (s : Session V) (d : Draft) : String := (s.known d).getD (s.store.text d.buffer)

def setKnown (d : Draft) (text : String) (s : Session V) : Session V :=
  { s with known := fun e => if e = d then some text else s.known e }

/-- A draft hears of the text in its editor. -/
def hear (text : String) (s : Session V) (d : Draft) : Session V :=
  if text = s.knownText d then s
  else
    let s := s.setKnown d text
    let apply : Action := .dispatch (.edited d.buffer text true)
    { s with board := s.board.spawn .edit { stage := .start apply } }

/-- An editor reports its text to the drafts that listen. -/
def report (name : String) (s : Session V) : Session V :=
  match s.editors.find? name with
  | some e => e.listeners.foldl (hear e.value)
      { s with editors := s.editors.modify name Editor.report }
  | none => s

/-- The user puts a text into an editor. -/
def typeInto (name text : String) (s : Session V) : Session V :=
  report name { s with editors := s.editors.modify name fun e => { e with value := text } }

/-- Put a text into the editor of a buffer, if it has one with another text. -/
def syncEditor (b : Buffer) (text : String) (s : Session V) : Session V :=
  match s.attached b with
  | none => s
  | some name =>
    match s.editors.find? name with
    | none => s
    | some e =>
      if e.value = text then s
      else
        let s := { s with editors := s.editors.modify name (·.load text) }
        match e.echo with
        | .later => { s with board := s.board.spawn .echo { stage := .start (.report name) } }
        | _ => s

/-- The text that this is to give a draft because its editor has changed. -/
def Stage.editorText? (d : Draft) : Stage → Option String
  | .start (.dispatch e) =>
    if e.fromEditor ∧ e.buffer = some d.buffer then some (e.text.getD "") else none
  | _ => none

/-- The texts of a draft's editor that are still to be applied, first to last. -/
def backlog (s : Session V) (d : Draft) : List String :=
  s.pendingEdits.filterMap fun a =>
    match a.phase with
    | .ready plan => plan.stage.editorText? d
    | _ => none

/-- Put a text into the editor of a draft, past the changes there that are still to be applied. -/
def overwrite (d : Draft) (text : String) (s : Session V) : Session V :=
  let s := if (s.backlog d).isEmpty then s else s.record (.overtook d)
  (s.setKnown d text).syncEditor d.buffer text

/-- Attach an editor to a buffer. The editor of the output is only written to; the others feed
their text into the session from now on. -/
def attach (b : Buffer) (name : String) (s : Session V) : Session V :=
  let s := { s with attached := fun c => if c = b then some name else s.attached c }
  match b.draft? with
  | none =>
    let s := { s with editors := s.editors.modify name fun e => { e with readOnly := true } }
    s.syncEditor b s.store.outputText
  | some d =>
    let listen (e : Editor) : Editor := { e with listeners := e.listeners ++ [d] }
    let s := { s with editors := s.editors.modify name listen }
    let s := s.setKnown d (s.store.text b)
    match s.editors.find? name with
    | some e => s.hear e.value d
    | none => s

end Workbench.Session
