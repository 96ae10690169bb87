import Workbench.Session.Transform

/-!
# Validation

A changed draft loses its snapshot at once and is validated after the coalescing window. A verdict
counts only while the draft still holds exactly the text that was sent. When both drafts have
become valid and the automatic transform is armed, a transform is asked for.
-/
namespace Workbench.Session

open Document (Buffer Draft Status Store)
open Service (Reaction Verdict)

variable {V : Type}

/-- The status of a draft that was found valid. -/
def validStatus (v : Verdict) : Status :=
  if v.isWarning then { label := "Valid", level := .warning, detail := v.detail? }
  else { label := "Valid", level := .valid }

/-- The documents after a verdict on the text of a draft. -/
def judged (d : Draft) (text : String) (v : Verdict) (s : Store) : Store :=
  if v.valid then (s.setSnapshot d (some text)).setStatus d.buffer (validStatus v)
  else (s.setSnapshot d none).setStatus d.buffer (.error "Error" v.detail?)

/-- What is told about a draft that could not be validated. -/
def faultDetail : Draft → String → String
  | .input, reason => "Error validating JSON: " ++ reason
  | .spec, reason => "Error validating specification: " ++ reason

/-- The documents when there is no verdict on a draft. -/
def unjudged (d : Draft) (reason : String) (s : Store) : Store :=
  (s.setSnapshot d none).setStatus d.buffer
    (.error "Validation Error" (some (faultDetail d reason)))

/-- The documents after the validation of a text has ended. It counts only while the draft still
holds that text. -/
def heard (d : Draft) (text : String) (result : Except Failure Verdict) (s : Store) : Store :=
  if (s.draft d).text = text then
    match result with
    | .ok v => judged d text v s
    | .error (.transport _ reason) => unjudged d reason s
    | .error _ => s
  else s

/-- The validation of a text has ended. -/
def hearVerdict (d : Draft) (text : String) (result : Except Failure Verdict) (s : Session V) :
    Session V :=
  (s.record (.judged d text result)).setStore (heard d text result)

/-- A draft has a new text: it is to be validated later, unless it is blank. -/
def expectVerdict (d : Draft) (text : String) (s : Session V) : Session V :=
  let s := s.setStore (·.setSnapshot d none)
  if Text.isBlank text then
    let (scheduler, board) := s.scheduler.cancel d s.board
    setStore (·.setStatus d.buffer (.ofBlank d)) { s with scheduler, board }
  else
    let s := s.setStore (·.setStatus d.buffer .validating)
    let s := if s.scheduler.isPending d then
        s.note (Coalescing.Scheduler.replacedNote d.buffer.name)
      else s
    let (scheduler, board) := s.scheduler.schedule d text s.board
    { s with scheduler, board }

/-- A draft gets a text, which is to be validated. -/
def putText (d : Draft) (text : String) (s : Session V) : Session V :=
  ((s.record (.edited s.board.now d text)).setStore (·.setText d.buffer text)).expectVerdict d text

def staleNote (b : Buffer) : Note :=
  .debug "Discarded stale validation response" [("buffer", .string b.name)]

def unreachedVerdictNote (d : Draft) (reason : String) : Note :=
  .warning "Validation request failed"
    [("buffer", .string d.buffer.name), ("error", .string reason)]

def appliedNote (d : Draft) (valid : Bool) : Note :=
  .debug "Validation applied" [("buffer", .string d.buffer.name), ("valid", .bool valid)]

def autoNote : Note := .debug "Both buffers valid, requesting auto-transform" []

namespace Act

/-- Report a verdict that counts. If it has made both drafts valid, a transform may be asked for. -/
def reportVerdict (view : View V) (d : Draft) (v : Verdict) (wasReady : Bool) : Act V Progress := do
  write (appliedNote d v.valid)
  announceState view d.buffer
  let store := (← get).store
  if store.armed && store.bothValid && !wasReady then
    write autoNote
    triggerTransform view
  else pure (.done .nothing)

/-- The verdict on a text of a draft has come, or there is none. -/
def finishValidation (view : View V) (d : Draft) (text : String) (r : Reaction) :
    Act V Progress := do
  let (notes, result) := Service.Client.readVerdict d r
  change (noteAll notes)
  let before := (← get).store
  change (hearVerdict d text result)
  let verdict ← reached result
  if (before.draft d).text ≠ text then
    write (staleNote d.buffer)
    pure (.done .nothing)
  else
    match verdict with
    | .ok v => reportVerdict view d v before.bothValid
    | .error reason =>
      write (unreachedVerdictNote d reason)
      announceState view d.buffer
      pure (.done .nothing)

/-- A verdict on a text of no draft is stale unless the output holds that text, and then it cannot be
applied. -/
def refuseStray (text : String) : Act V Progress := do
  if (← get).store.outputText ≠ text then
    write (staleNote .output)
    pure (.done .nothing)
  else throw (.noSnapshot Store.noSnapshot)

/-- The verdict on a text of no draft has come. -/
def finishStray (text : String) (r : Reaction) : Act V Progress := do
  let (notes, result) := Service.Client.readVerdict .spec r
  change (noteAll notes)
  match result with
  | .ok _ | .error (.transport ..) => refuseStray text
  | .error f => throw f

/-- Validate a text now, as if it were the buffer's. -/
def validate (view : View V) (b : Buffer) (text : String) : Act V Progress := do
  match b.draft? with
  | some d =>
    let reply ← send (.validate d text)
    receive reply (finishValidation view d text) (.verdict d text)
  | none =>
    let reply ← send (.validate .spec text)
    receive reply (finishStray text) (.stray text)

end Act

end Workbench.Session
