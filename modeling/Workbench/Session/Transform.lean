import Workbench.Session.Attachment

/-!
# Transforms

One attempt at a transform for each trigger. Attempts are numbered and never taken back; only the
answer to the latest one is applied, and a late answer to an earlier one is dropped.
-/
namespace Workbench.Session

open Document (Store Status)
open Service (Outcome Reaction TransformRequest)

variable {V : Type}

/-- What is missing for a transform. -/
def missing? (s : Store) : Option String :=
  if Text.isBlank s.input.text then some "Please provide input JSON data"
  else if Text.isBlank s.spec.text then some "Please provide a transformation specification"
  else none

/-- The documents while a transform is under way. -/
def transforming (s : Store) : Store := { s with outputStatus := .transforming }

/-- The documents after a successful transform. -/
def succeeded (o : Outcome) (s : Store) : Store :=
  { s with
    outputText := o.result.getD ""
    executionTime := o.executionTime
    rating := some (o.rating.getD .unknown)
    outputStatus := { label := "Success", level := .valid, detail := some "Transformation successful" } }

/-- The documents after a transform that failed. -/
def failed (detail : String) (s : Store) : Store :=
  { s with outputText := "", outputStatus := .error "Error" (some detail) }

/-- The error in an answer; a general one if it names none. -/
def errorText (o : Outcome) : String :=
  match o.error with
  | none | some "" => "Transformation failed"
  | some e => e

/-- What is told about a transform whose request failed. -/
def unreachedMessage (reason : String) : String := "Request failed: " ++ reason

def setStore (f : Store → Store) (s : Session V) : Session V := { s with store := f s.store }

def beganNote (generation : Nat) (decoded : Bool) : Note :=
  .debug "Dispatching transform"
    [("generation", .int generation), ("decoded_spec", .bool decoded)]

def supersededNote (generation latest : Nat) : Note :=
  .debug "Discarded superseded transform response"
    [("generation", .int generation), ("latest", .int latest)]

def unreachedNote (generation : Nat) (reason : String) : Note :=
  .warning "Transform request failed"
    [("generation", .int generation), ("error", .string reason)]

def completedNote (generation : Nat) (o : Outcome) : Note :=
  .info "Transform completed"
    [("generation", .int generation),
      ("execution_time_ms", match o.executionTime with
        | some t => .int t
        | none => .null),
      ("complexity", .string (o.rating.getD .unknown).name)]

def rejectedNote (generation : Nat) (error : String) : Note :=
  .info "Transform rejected by service"
    [("generation", .int generation), ("error", .string error)]

/-- The documents after the call of the latest transform has ended. -/
def transformed : Except Failure Outcome → Store → Store
  | .ok o => if o.success then succeeded o else failed (errorText o)
  | .error (.transport _ reason) => failed (unreachedMessage reason)
  | .error _ => id

/-- The request that the drafts make. -/
def request (s : Session V) : TransformRequest :=
  .ofDrafts s.store.input.text s.store.spec.text

/-- A transform of the documents as they are begins. -/
def begin (s : Session V) : Session V :=
  let generation := s.generation + 1
  setStore transforming (record (.began generation s.request) { s with generation })

/-- The call of a transform has ended. It counts if no later transform has begun. -/
def hearOutcome (generation : Nat) (result : Except Failure Outcome) (s : Session V) : Session V :=
  (s.record (.answered generation result)).setStore
    (if generation = s.generation then transformed result else id)

namespace Act

/-- Report what came of the latest transform: an outcome, or the reason why there is none. -/
def reportOutcome (view : View V) (generation : Nat) : Except String Outcome → Act V Unit
  | .error reason => do
    write (unreachedNote generation reason)
    announceState view .output
    announceNotice view (unreachedMessage reason) .error
  | .ok o =>
    if o.success then do
      write (completedNote generation o)
      announceState view .output
      announceNotice view "Transformation completed successfully" .success
    else do
      write (rejectedNote generation (errorText o))
      announceState view .output
      announceNotice view ("Transformation failed: " ++ errorText o) .error

/-- The end of a transform. One that an event asked for brings the output's editor up to date. -/
def conclude (requested : Bool) (o : Option Outcome) : Act V Progress := do
  if requested then
    change fun s => s.syncEditor .output s.store.outputText
    pure (.done .nothing)
  else pure (.done (.outcome o))

/-- The answer to a transform has come. -/
def finishTransform (view : View V) (generation : Nat) (requested : Bool) (r : Reaction) :
    Act V Progress := do
  let (notes, result) := Service.Client.readOutcome r
  change (noteAll notes)
  let latest := (← get).generation
  change (hearOutcome generation result)
  let outcome ← reached result
  if generation = latest then reportOutcome view generation outcome
  else write (supersededNote generation latest)
  conclude requested outcome.toOption

/-- Send the request of the transform that has just begun. -/
def callTransform (view : View V) (requested : Bool) : Act V Progress := do
  let s ← get
  write (beganNote s.generation s.request.isDecoded)
  announceState view .output
  let reply ← send (.transform s.request)
  receive reply (finishTransform view s.generation requested) (.outcome s.generation requested)

/-- Begin a transform of the documents as they are. -/
def beginTransform (view : View V) (requested : Bool) : Act V Progress := do
  change begin
  callTransform view requested

/-- A transform whose outcome is the answer; without something to transform it fails. -/
def transform (view : View V) : Act V Progress := do
  match missing? (← get).store with
  | some reason => throw (.precondition reason)
  | none => beginTransform view false

/-- An event asks for a transform; without something to transform the user is warned. -/
def handleTransform (view : View V) : Act V Progress := do
  match missing? (← get).store with
  | some reason =>
    change fun s => { s with lastWarning := some reason }
    write (.warning "Transform precondition not met" [("reason", .string reason)])
    announceNotice view reason .warning
    pure (.done .nothing)
  | none => beginTransform view true

/-- Ask for a transform by an event. -/
def requestTransform (view : View V) : Act V Progress := do
  (← get).bus.dispatch .transformRequested write (fun _ => handleTransform view) (.done .nothing)

/-- The session itself asks for a transform. -/
def triggerTransform (view : View V) : Act V Progress := do
  change (record .triggered)
  requestTransform view

end Act

end Workbench.Session
