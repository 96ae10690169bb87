import Workbench.Session.Action

/-!
# Running a session

The jobs of a session: its activities go on, its timers fire, and ended activities leave. Actions
of the user are started as activities of their own, one or several in a row.
-/
namespace Workbench.Session

open Document (Draft)
open Turn (Activity Job Machine)

variable {V : Type}

/-- How far an activity got. -/
inductive Course where
  | done (answers : List Answer)
  | paused (pause : Pause) (next : Plan)

/-- Go through a stage and the actions after it until one has to wait. -/
def follow (view : View V) : List Action → Stage → List Answer → Act V Course
  | [], stage, answers => do
    match ← Act.goOn view stage with
    | .paused pause next => pure (.paused pause ⟨next, [], answers⟩)
    | .done a => pure (.done (answers ++ [a]))
  | action :: rest, stage, answers => do
    match ← Act.goOn view stage with
    | .paused pause next => pure (.paused pause ⟨next, action :: rest, answers⟩)
    | .done a => follow view rest (.start action) (answers ++ [a])

/-- An activity ends; what came of an action of the user is kept. -/
def finish (a : Activity Role Plan) (result : Except Failure (List Answer)) (s : Session V) :
    Session V :=
  let failure := match result with
    | .ok _ => none
    | .error f => some f
  let s := { s with board := s.board.finish a.id failure }
  match a.role with
  | .user n => { s with finished := s.finished ++ [(n, result)] }
  | _ => s

/-- An activity has to wait. -/
def suspend (a : Activity Role Plan) (next : Plan) (s : Session V) : Pause → Session V
  | .time duration => { s with board := s.board.sleep a.id duration next }
  | .activities others => { s with board := s.board.await a.id others next }

/-- An activity goes on. -/
def proceed (view : View V) (s : Session V) (a : Activity Role Plan) : Session V :=
  match a.phase with
  | .ready plan =>
    match (follow view plan.rest plan.stage plan.answers).run s with
    | (.ok (.done answers), s) => s.finish a (.ok answers)
    | (.ok (.paused pause next), s) => s.suspend a next pause
    | (.error f, s) => s.finish a (.error f)
  | _ => s

/-- An activity leaves. Failures that nobody else hears of are noted. -/
def leave (s : Session V) (a : Activity Role Plan) : Session V :=
  let s := { s with board := s.board.remove a.id }
  match a.role, a.phase with
  | .validation, .over (some f) => s.note (Coalescing.Scheduler.failedNote f)
  | .edit, .over (some f) =>
    s.note (.error "Editor change handling failed" [("error", .string f.message)])
  | _, _ => s

/-- The timer of a draft has fired: its text is validated. -/
def fire (d : Draft) (s : Session V) : Session V :=
  match s.scheduler.take? d with
  | some (text, scheduler) =>
    let plan : Plan := { stage := .start (.validate d.buffer text) }
    { s with scheduler, board := s.board.spawn .validation plan }
  | none => s

/-- Do a job. -/
def perform (view : View V) (s : Session V) : Job Draft → Session V
  | .run id => (s.board.find? id).elim s (s.proceed view)
  | .wake id => { s with board := s.board.wake id }
  | .count id => { s with board := s.board.count id }
  | .ended id => (s.board.find? id).elim s s.leave
  | .fire d => s.fire d

/-- Do the next job, if there is one. -/
def step (view : View V) (s : Session V) : Option (Session V) :=
  s.board.next?.map fun (j, board) => perform view { s with board } j

def machine (view : View V) : Machine (Session V) where
  step := step view
  nextDue? s := s.board.agenda.nextDue?
  moveTo s time := { s with board := s.board.moveTo time }

/-- Start actions of the user, one after the other, as one activity. -/
def launch (number : Nat) (actions : List Action) (s : Session V) : Session V :=
  match actions with
  | [] => { s with finished := s.finished ++ [(number, .ok [])] }
  | first :: rest =>
    { s with board := s.board.spawn (.user number) { stage := .start first, rest } }

/-- Has the activity of the user ended? -/
def hasFinished (number : Nat) (s : Session V) : Bool := s.finished.any (·.1 = number)

/-- Do an action at once. -/
def act (view : View V) (a : Action) (s : Session V) : Except Failure Progress × Session V :=
  (Act.start view a).run s

end Workbench.Session
