import Workbench.Coalescing.Scheduler
import Workbench.Document.Store
import Workbench.Session.Bus
import Workbench.Session.Editor
import Workbench.Session.History
import Workbench.Settings.Basic
import Workbench.Styled.Text
import Workbench.Turn.Run

/-!
# The state of a session

A session owns the documents, the validation timers, a client of the service and the board of its
activities. Editors and a view may be attached to it. The view is a state of type `V` that is told
of events.
-/
namespace Workbench

open Document (Buffer Draft Store)
open Service (Reaction)
open Turn (Activity Board)

namespace Session

/-- Whose activity it is. -/
inductive Role where
  /-- An action of the user. -/
  | user (number : Nat)
  /-- A change in an editor that is being applied. -/
  | edit
  | validation
  /-- An editor that reports a text put into it. -/
  | echo
  deriving DecidableEq, Repr

/-- What can be asked of a session. -/
inductive Action where
  | edit (buffer : Buffer) (text : String)
  | format (buffer : Buffer)
  | clear (draft : Draft)
  | requestTransform
  | setArmed (armed : Bool)
  /-- Validate a text now, as if it were a buffer's. -/
  | validate (buffer : Buffer) (text : String)
  /-- A transform whose outcome is the answer. -/
  | transform
  | checkDrafts
  | dispatch (event : Event)
  | listOperations
  | treeView
  /-- Wait until nothing is left to be done for the edits made so far. -/
  | settle
  | enter
  | close
  | attach (buffer : Buffer) (editor : String)
  | type (editor text : String)
  /-- An editor reports its text. -/
  | report (editor : String)
  deriving Repr

/-- What an action gives back. -/
inductive Answer where
  | nothing
  | flag (value : Bool)
  | outcome (o : Option Service.Outcome)
  | names (names : List String)
  | view (text : Styled.Text)
  deriving Repr

/-- What an activity does when it goes on: start an action, or take up one that has waited. -/
inductive Stage where
  | start (action : Action)
  /-- The verdict on a text of a draft has come. -/
  | verdict (draft : Draft) (text : String) (reaction : Reaction)
  /-- The verdict on a text of no draft has come. -/
  | stray (text : String) (reaction : Reaction)
  /-- The answer to a transform has come; `requested` if an event asked for it. -/
  | outcome (generation : Nat) (requested : Bool) (reaction : Reaction)
  | names (reaction : Reaction)
  /-- Go on to settle: the edits that were waited for have been applied. -/
  | drain
  deriving Repr

/-- What is left of an activity: its stage, the actions after it, the answers so far. -/
structure Plan where
  stage : Stage
  rest : List Action := []
  answers : List Answer := []
  deriving Repr

/-- What an activity waits for. -/
inductive Pause where
  | time (duration : Nat)
  | activities (others : List (Activity Role Plan))

/-- How far a stage got. -/
inductive Progress where
  | done (answer : Answer)
  | paused (pause : Pause) (next : Stage)

/-- Who handles an event. -/
inductive Handler where
  | applyEdit
  | transform
  | setArmed
  | view
  deriving DecidableEq, Repr

/-- What a view does when it is told of an event: it changes, and it may break. -/
abbrev View (V : Type) := Store → Event → V → V × Option Failure

end Session

open Session

/-- A session. -/
structure Session (V : Type) where
  settings : Settings
  store : Store
  /-- The texts that wait for validation. -/
  scheduler : Coalescing.Scheduler Draft String
  board : Board Role Plan Draft := {}
  client : Service.Client
  /-- Is the client closed with the session? -/
  ownsClient : Bool
  server : Service.Server
  /-- The number of transforms begun. -/
  generation : Nat := 0
  lastWarning : Option String := none
  editors : Editors := []
  /-- The editor of each buffer. -/
  attached : Buffer → Option String := fun _ => none
  /-- The latest text known to be in a draft's editor, applied or not. -/
  known : Draft → Option String := fun _ => none
  /-- Is the view told of events? -/
  watched : Bool
  view : V
  journal : List Note := []
  history : List Happening := []
  /-- The actions of the user that have ended. -/
  finished : List (Nat × Except Failure (List Answer)) := []

namespace Session

variable {V : Type}

/-- A new session. The window is in microseconds. -/
def new (settings : Settings) (window : Nat) (armed : Bool) (client : Service.Client)
    (server : Service.Server) (ownsClient watched : Bool) (view : V) : Session V :=
  { settings
    store := { armed }
    scheduler := { window }
    client, ownsClient, server, watched, view }

/-- The handlers of events. -/
def bus (s : Session V) : Bus Handler :=
  ⟨[(.bufferEdited, .applyEdit), (.transformRequested, .transform),
      (.autoTransformToggled, .setArmed)] ++
    if s.watched then [(.stateChanged, .view), (.notice, .view)] else []⟩

/-- The validations that run. -/
def validations (s : Session V) : List (Activity Role Plan) :=
  s.board.withRole (· == .validation)

/-- The changes in editors that are still to be applied. -/
def pendingEdits (s : Session V) : List (Activity Role Plan) := s.board.withRole (· == .edit)

/-- No timer is armed and no validation runs. -/
def isIdle (s : Session V) : Bool := s.scheduler.pending.isEmpty && s.validations.isEmpty

/-- The actions of the user that have not ended. -/
def unfinished (s : Session V) : List Nat :=
  s.board.activities.filterMap fun a =>
    match a.role with
    | .user n => if a.isOver then none else some n
    | _ => none

/-- Enter a note in the journal. -/
def note (n : Note) (s : Session V) : Session V := { s with journal := s.journal ++ [n] }

def noteAll (ns : List Note) (s : Session V) : Session V := { s with journal := s.journal ++ ns }

/-- Enter what has happened in the history. -/
def record (h : Happening) (s : Session V) : Session V := { s with history := s.history ++ [h] }

/-- The requests that have been sent. -/
def sent (s : Session V) : List Sent := s.history.filterMap (·.sent?)

/-- A stretch of work on a session: it goes through without a pause, or fails on its way. -/
abbrev Act (V : Type) := ExceptT Failure (StateM (Session V))

namespace Act

/-- Change the session. -/
def change (f : Session V → Session V) : Act V Unit := modify f

/-- Enter a note in the journal. -/
def write (n : Note) : Act V Unit := change (note n)

/-- The view is told of an event. -/
def present (view : View V) (e : Event) : Act V Unit := do
  let s ← get
  let (v, failure) := view s.store e s.view
  set { s with view := v }
  match failure with
  | some f => throw f
  | none => pure ()

/-- Send an event that is meant for the view. -/
def announce (view : View V) (e : Event) : Act V Unit := do
  (← get).bus.dispatch e write (fun _ => present view e) ()

/-- Announce that something about a buffer has changed. -/
def announceState (view : View V) (b : Buffer) : Act V Unit := announce view (.stateChanged b)

/-- Announce a notice to the user. -/
def announceNotice (view : View V) (message : String) (level : NoticeLevel) : Act V Unit :=
  announce view (.notice message level)

/-- Send the request of a call, and get its reply. -/
def send (c : Service.Call) : Act V Service.Reply := do
  change (noteAll c.notes)
  let s ← get
  match s.client.send s.server c with
  | .error f => do
    change (record (.refused c f))
    throw f
  | .ok (out, reply, server) => do
    change fun s => record (.sent ⟨s.board.now, out⟩ reply) { s with server }
    pure reply

/-- The result of a call, or the reason why the service was not reached. Any other failure of the call
stays one. -/
def reached {α : Type} : Except Failure α → Act V (Except String α)
  | .ok a => pure (.ok a)
  | .error (.transport _ reason) => pure (.error reason)
  | .error f => throw f

/-- Take up a reply: at once if it took no time, and else at a later stage. -/
def receive (reply : Service.Reply) (now : Reaction → Act V Progress)
    (later : Reaction → Stage) : Act V Progress :=
  if reply.delay = 0 then now reply.reaction
  else pure (.paused (.time reply.delay) (later reply.reaction))

end Act

end Session

end Workbench
