import Workbench.Command.Job
import Workbench.Proofs.Session.Move

/-!
# The states of a session

All states that a session can come to, whoever uses it: jobs are done one by one, and between two of
them time may pass, actions may be started, the session may be closed, editors may be attached to it
and report, and whatever lies around it may change. The sessions of the commands are among them.
-/
namespace Workbench.Session

open Document (Buffer)
open Turn (Machine)

variable {V : Type} {view : View V}

/-- What can happen next. What lies around a session is all that `Quiet` leaves open: the service
and the client, the view, and the editors. -/
inductive Next (view : View V) : Session V → Session V → Prop
  | job {s t} (h : s.step view = some t) : Next view s t
  | wait (s time) : Next view s { s with board := s.board.moveTo time }
  | launch (s number) {actions} (h : ∀ a ∈ actions, a.isFair = true) :
      Next view s (s.launch number actions)
  | attach (s b name) : Next view s (s.attach b name)
  | type (s name text) : Next view s (s.typeInto name text)
  | report (s name) : Next view s (s.report name)
  | close (s) : Next view s s.close
  | around {s t} (h : Quiet s t) : Next view s t

/-- The states of a session that begins with any settings, window, client and service. -/
inductive Reachable (view : View V) : Session V → Prop
  | new (settings window armed client server ownsClient watched v) :
      Reachable view (.new settings window armed client server ownsClient watched v)
  | next {s t} (hs : Reachable view s) (h : Next view s t) : Reachable view t

/-- A stretch of the life of a session. -/
abbrev Run (view : View V) : Session V → Session V → Prop := Relation.ReflTransGen (Next view)

theorem Reachable.run {s t : Session V} (hs : Reachable view s) (h : Run view s t) :
    Reachable view t := by
  induction h with
  | refl => exact hs
  | tail _ hnext ih => exact ih.next hnext

namespace Run

theorem iterate {R : Session V → Session V → Prop} {step : Session V → Option (Session V)}
    (hstep : ∀ s t, step s = some t → R s t) (budget : Nat) (s : Session V) :
    Relation.ReflTransGen R s (Machine.iterate step budget s) := by
  induction budget generalizing s with
  | zero => exact .refl
  | succ budget ih =>
    unfold Machine.iterate
    split
    case h_1 t h => exact .head (hstep s t h) (ih t)
    case h_2 => exact .refl

/-- The machine does a job, or time passes. -/
theorem stepOrMove_cases {mayMove : Session V → Nat → Bool} {s t : Session V}
    (h : (machine view).stepOrMove mayMove s = some t) :
    s.step view = some t ∨ ∃ time, t = { s with board := s.board.moveTo time } := by
  unfold Machine.stepOrMove at h
  split at h
  case h_1 u hu =>
    cases h
    exact .inl hu
  case h_2 =>
    split at h
    case h_1 due _ =>
      split at h
      · cases h
        exact .inr ⟨due, rfl⟩
      · cases h
    case h_2 => cases h

theorem next_of_stepOrMove {mayMove : Session V → Nat → Bool} {s t : Session V}
    (h : (machine view).stepOrMove mayMove s = some t) : Next view s t := by
  obtain hjob | ⟨time, rfl⟩ := stepOrMove_cases h
  · exact .job hjob
  · exact .wait s time

theorem rest (budget : Nat) (s : Session V) : Run view s ((machine view).rest budget s) :=
  iterate (fun _ _ => .job) budget s

theorem passTo (budget time : Nat) (s : Session V) :
    Run view s ((machine view).passTo budget time s) :=
  .tail (iterate (fun _ _ => next_of_stepOrMove) budget s) (.wait _ time)

theorem passUntil (budget : Nat) (isSo : Session V → Bool) (s : Session V) :
    Run view s ((machine view).passUntil budget isSo s) :=
  iterate (fun _ _ => next_of_stepOrMove) budget s

end Run

/-- The session of a command that transforms. -/
theorem reachable_transformSession (settings : Settings) (client : Service.Client)
    (server : Service.Server) (input spec : String) :
    Reachable (fun _ _ v => (v, none))
      (Command.transformSession settings client server input spec) := by
  refine Reachable.run (.next (.new ..) (.launch _ 0 ?_)) (.passUntil _ _ _)
  simp [Action.isFair]

/-- The session of a command that validates. -/
theorem reachable_validateSession (settings : Settings) (client : Service.Client)
    (server : Service.Server) (input spec : Option String) :
    Reachable (fun _ _ v => (v, none))
      (Command.validateSession settings client server input spec) := by
  refine Reachable.run (.next (.new ..) (.launch _ 0 ?_)) (.passUntil _ _ _)
  cases input <;> cases spec <;> simp [Action.isFair]

/-! ## Runs to look at -/

/-- A view that follows nothing. -/
def blindView : View Unit := fun _ _ v => (v, none)

theorem not_canBreak_blindView : ¬ View.CanBreak blindView := by
  rintro ⟨store, e, v, h⟩
  cases h

/-- The client of a service at the default address. -/
def localClient : Service.Client :=
  { base :=
      { scheme := "http".toList, user := [], host := "localhost".toList, portNumber := some 8080
        path := [], query := none, fragment := none } }

/-- A new session of a service at the default address. -/
def localSession (server : Service.Server) (window : Nat) (armed : Bool) : Session Unit :=
  let service :=
    { baseUrl := ServiceSettings.defaultBaseUrl, timeout := ServiceSettings.defaultTimeout }
  let settings : Settings :=
    { service, debounceMs := 300, renderMaxDepth := none, renderIndent := 2, autoTransform := true }
  .new settings window armed localClient server true false ()

/-- A service that finds every text valid and makes `2` of everything, at once. -/
def easyServer : Service.Server :=
  { queue := fun _ => []
    usual := fun request =>
      let body := match request.endpoint with
        | .transform => "\x7b\"success\":true,\"result\":\"2\"\x7d"
        | _ => "\x7b\"valid\":true\x7d"
      { delay := 0, reaction := .answer 200 (body.toUTF8.toList.map UInt8.toNat) } }

/-- An armed session of that service that has done the actions, and come to rest. -/
def easySession (window : Nat) (actions : List Action) : Session Unit :=
  (machine blindView).rest 100 ((localSession easyServer window true).launch 0 actions)

theorem run_easySession (window : Nat) (actions : List Action)
    (h : ∀ a ∈ actions, a.isFair = true) :
    Run blindView (localSession easyServer window true) (easySession window actions) :=
  .head (.launch _ 0 h) (Run.rest 100 _)

theorem reachable_easySession (window : Nat) (actions : List Action)
    (h : ∀ a ∈ actions, a.isFair = true) : Reachable blindView (easySession window actions) :=
  .run (.new ..) (run_easySession window actions h)

end Workbench.Session
