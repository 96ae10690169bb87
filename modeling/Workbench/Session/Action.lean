import Workbench.Session.Validation
import Workbench.Tree.View

/-!
# Actions

What a session does for each action of the user, and for each event.
-/
namespace Workbench.Session

open Document (Buffer Draft)

variable {V : Type}

/-- What a draft is called in notices. -/
def draftTitle : Draft → String
  | .input => "Input JSON"
  | .spec => "Specification"

def clearedMessage : Draft → String
  | .input => "Input cleared"
  | .spec => "Specification cleared"

/-- A new text of a draft. Unless it came from the editor it is put into it. -/
def applyEdit (d : Draft) (text : String) (fromEditor : Bool) (s : Session V) : Session V :=
  let s := if fromEditor then s else s.overwrite d text
  s.putText d text

/-- Arm or disarm the automatic transform. -/
def switch (armed : Bool) (s : Session V) : Session V :=
  (s.record (.switched armed)).setStore ({ · with armed })

/-- The output of a transform as a tree. -/
def treeView (s : Session V) : Styled.Text :=
  Tree.viewOutput s.store.outputText s.settings.renderIndent
    (s.settings.renderMaxDepth.map fun n => (n : Int))

/-- Disarm all timers, and close the client if it is the session's own. -/
def close (s : Session V) : Session V :=
  let s := s.record (.closed s.scheduler.pending)
  let (scheduler, board) := s.scheduler.cancelAll s.board
  { s with scheduler, board, client := if s.ownsClient then s.client.close else s.client }

namespace Act

/-- A buffer is edited; the output cannot be. -/
def handleEdit (view : View V) (e : Event) : Act V Progress := do
  match e.buffer.bind Buffer.draft? with
  | some d =>
    change (applyEdit d (e.text.getD "") e.fromEditor)
    announceState view d.buffer
  | none => write (.debug "Ignored edit to read-only buffer" [])
  pure (.done .nothing)

/-- The automatic transform is switched. Arming it with both drafts valid asks for a transform. -/
def handleArmed (view : View V) (armed : Bool) : Act V Progress := do
  let before := (← get).store
  change (switch armed)
  write (.debug "Auto-transform toggled" [("armed", .bool armed)])
  if armed && !before.armed && before.bothValid then triggerTransform view
  else pure (.done .nothing)

/-- Hand an event to its handler. -/
def dispatch (view : View V) (e : Event) : Act V Progress := do
  let handle : Handler → Act V Progress
    | .applyEdit => handleEdit view e
    | .transform => handleTransform view
    | .setArmed => handleArmed view (e.armed.getD false)
    | .view => do
      present view e
      pure (.done .nothing)
  (← get).bus.dispatch e write handle (.done .nothing)

/-- Put a text into a buffer. -/
def edit (view : View V) (b : Buffer) (text : String) : Act V Progress :=
  dispatch view (.edited b text false)

/-- Tell that a draft has been laid out anew; the other buffer has no name to tell it by. -/
def announceFormatted (view : View V) (b : Buffer) : Act V Progress := do
  match b.draft? with
  | some d =>
    announceNotice view (draftTitle d ++ " formatted successfully") .success
    pure (.done (.flag true))
  | none => throw .unnamedBuffer

/-- Lay out a buffer that holds JSON anew, indented by two. The answer is whether it does. -/
def format (view : View V) (b : Buffer) : Act V Progress := do
  let text := (← get).store.text b
  if Text.isBlank text then pure (.done (.flag false))
  else
    match Json.decode text with
    | .error e =>
      announceNotice view ("Invalid JSON: " ++ e.message) .error
      pure (.done (.flag false))
    | .ok v =>
      let formatted := Json.indented 2 v
      if formatted ≠ text then
        let _ ← edit view b formatted
      announceFormatted view b

def clear (view : View V) (d : Draft) : Act V Progress := do
  let _ ← edit view d.buffer ""
  announceNotice view (clearedMessage d) .info
  pure (.done .nothing)

def finishOperations (r : Service.Reaction) : Act V Progress :=
  match Service.Client.readOperations r with
  | .ok names => pure (.done (.names names))
  | .error f => throw f

def listOperations : Act V Progress := do
  let reply ← send .operations
  receive reply finishOperations .names

/-- Wait for the edits that are still to be applied, if there are any; `otherwise` if not. -/
def awaitEdits (otherwise : Progress) : Act V Progress := do
  let edits := (← get).pendingEdits
  if edits.isEmpty then pure otherwise
  else pure (.paused (.activities edits) .drain)

/-- Wait for the timers and the validations, and after them for edits that have come up. -/
def drain : Act V Progress := do
  let s ← get
  match s.scheduler.wait s.validations with
  | .activities others => pure (.paused (.activities others) .drain)
  | .time duration => pure (.paused (.time duration) .drain)
  | .nothing => awaitEdits (.done .nothing)

/-- Wait until no edit is to be applied, no timer is armed and no validation runs. -/
def settle : Act V Progress := do
  if (← get).pendingEdits.isEmpty then drain else awaitEdits (.done .nothing)

/-- The answer of a change that cannot fail. -/
def plainly (f : Session V → Session V) : Act V Progress := do
  change f
  pure (.done .nothing)

/-- Start an action. -/
def start (view : View V) : Action → Act V Progress
  | .edit b text => edit view b text
  | .format b => format view b
  | .clear d => clear view d
  | .requestTransform => requestTransform view
  | .setArmed armed => dispatch view (.toggled armed)
  | .validate b text => validate view b text
  | .transform => transform view
  | .checkDrafts => do
    match missing? (← get).store with
    | some reason => throw (.precondition reason)
    | none => pure (.done .nothing)
  | .dispatch e => dispatch view e
  | .listOperations => listOperations
  | .treeView => do pure (.done (.view (← get).treeView))
  | .settle => settle
  | .enter => pure (.done (.flag true))
  | .close => plainly close
  | .attach b name => do
    change (attach b name)
    pure (.done (.flag true))
  | .type name text => do
    match (← get).editors.find? name with
    | some _ => plainly (typeInto name text)
    | none => throw (.unknownEditor name)
  | .report name => plainly (report name)

/-- Go on with a stage. -/
def goOn (view : View V) : Stage → Act V Progress
  | .start a => start view a
  | .verdict d text r => finishValidation view d text r
  | .stray text r => finishStray text r
  | .outcome generation requested r => finishTransform view generation requested r
  | .names r => finishOperations r
  | .drain => drain

end Act

end Workbench.Session
