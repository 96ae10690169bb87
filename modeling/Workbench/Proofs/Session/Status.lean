import Workbench.Proofs.Session.Agree
import Workbench.Proofs.Session.Reach

/-!
# The status of an answer

Two sessions are used in the same way, and their services give answers with the same bodies after the
same times, but with any statuses. Then the same requests go out at the same times, the documents stay
the same, and the view is told of the same, but for the status that is named where a body cannot be
decoded. Where all bodies can be decoded the statuses make no difference at all.
-/
namespace Workbench.Session

open Document (Buffer Draft Store)
open Service (Server)
open Turn (Activity Job Machine)

variable {p : Prop} {V : Type} {R : V → V → Prop} {view : View V} {s t : Session V}

/-! ## One activity -/

/-- How far two activities got, up to answers that are alike. -/
inductive Course.Alike (p : Prop) : Course → Course → Prop
  | done (answers) : Course.Alike p (.done answers) (.done answers)
  | paused {x y next next'} (h : x.Alike p y) (hnext : next.Alike p next') :
      Course.Alike p (.paused x next) (.paused y next')

theorem agree_follow (hview : view.Respects p R) (h : s.Alike p R t) (rest : List Action)
    {x y : Stage} (hxy : x.Alike p y) (answers : List Answer) :
    Act.Agree p R (follow view rest x answers) (follow view rest y answers) s t
      (Course.Alike p) := by
  induction rest generalizing s t x y answers with
  | nil =>
    unfold follow
    refine Act.agree_bind (Act.agree_goOn hview h hxy) fun _ _ _ _ h hprogress => ?_
    cases hprogress with
    | done a => exact Act.agree_pure h (.done _)
    | paused hpause hnext => exact Act.agree_pure h (.paused hpause ⟨hnext, rfl, rfl⟩)
  | cons action rest ih =>
    unfold follow
    refine Act.agree_bind (Act.agree_goOn hview h hxy) fun _ _ _ _ h hprogress => ?_
    cases hprogress with
    | done a => exact ih h (.same _) _
    | paused hpause hnext => exact Act.agree_pure h (.paused hpause ⟨hnext, rfl, rfl⟩)

namespace Alike

variable {a b : Activity Role Plan}

theorem finish (h : s.Alike p R t) (hab : a.Alike (Plan.Alike p) b)
    (result : Except Failure (List Answer)) :
    (s.finish a result).Alike p R (t.finish b result) := by
  unfold Session.finish
  rw [hab.id, hab.role]
  dsimp only
  split
  · exact { h with board := h.board.finish _ _, finished := by rw [h.finished] }
  · exact h.setBoard (h.board.finish _ _)

theorem suspend (h : s.Alike p R t) (hab : a.Alike (Plan.Alike p) b) {x y : Plan}
    (hxy : x.Alike p y) {q r : Pause} (hqr : q.Alike p r) :
    (s.suspend a x q).Alike p R (t.suspend b y r) := by
  cases hqr <;> unfold Session.suspend <;> rw [hab.id]
  case time duration => exact h.setBoard (h.board.sleep _ duration hxy)
  case activities hothers => exact h.setBoard (h.board.await _ hothers hxy)

/-- An activity that goes on in both sessions leaves them alike. -/
theorem proceed (hview : view.Respects p R) (h : s.Alike p R t)
    (hab : a.Alike (Plan.Alike p) b) : (s.proceed view a).Alike p R (t.proceed view b) := by
  have hphase := hab.phase
  unfold Session.proceed
  generalize a.phase = q at hphase
  generalize b.phase = r at hphase
  cases hphase with
  | @ready x y hxy =>
    obtain ⟨hresult, halike⟩ := agree_follow hview h x.rest hxy.stage x.answers
    dsimp only
    rw [hxy.rest, hxy.answers]
    generalize (follow view x.rest x.stage x.answers).run s = o at hresult halike ⊢
    generalize (follow view x.rest y.stage x.answers).run t = o' at hresult halike ⊢
    obtain ⟨result, s'⟩ := o
    obtain ⟨result', t'⟩ := o'
    cases hresult with
    | error f => exact halike.finish hab _
    | ok hcourse =>
      cases hcourse with
      | done answers => exact halike.finish hab _
      | paused hpause hnext => exact halike.suspend hab hnext hpause
  | _ => exact h

theorem leave (h : s.Alike p R t) (hab : a.Alike (Plan.Alike p) b) :
    (s.leave a).Alike p R (t.leave b) := by
  have hphase := hab.phase
  have hremoved := h.setBoard (h.board.remove a.id)
  unfold Session.leave
  rw [hab.id, hab.role]
  generalize a.phase = q at hphase
  generalize b.phase = r at hphase
  dsimp only
  obtain _ | _ | _ | f := hphase
  · cases a.role <;> exact hremoved
  · cases a.role <;> exact hremoved
  · cases a.role <;> exact hremoved
  · cases f <;> cases a.role <;> first | exact hremoved | exact hremoved.note _

theorem fire (h : s.Alike p R t) (d : Draft) : (s.fire d).Alike p R (t.fire d) := by
  unfold Session.fire
  rw [h.scheduler]
  split
  · exact h.setTimers rfl (h.board.spawn _ (.refl _))
  · exact h

/-! ## Whole runs -/

theorem perform (hview : view.Respects p R) (h : s.Alike p R t) (j : Job Draft) :
    (Session.perform view s j).Alike p R (Session.perform view t j) := by
  cases j with
  | run id =>
    dsimp only [Session.perform]
    obtain ⟨hs, ht⟩ | ⟨a, b, hs, ht, hab⟩ := h.board.find? id <;> rw [hs, ht]
    · exact h
    · exact h.proceed hview hab
  | wake id => exact h.setBoard (h.board.wake id)
  | count id => exact h.setBoard (h.board.count id)
  | ended id =>
    dsimp only [Session.perform]
    obtain ⟨hs, ht⟩ | ⟨a, b, hs, ht, hab⟩ := h.board.find? id <;> rw [hs, ht]
    · exact h
    · exact h.leave hab
  | fire d => exact h.fire d

/-- The same job comes up in both sessions, or none does. -/
theorem step (hview : view.Respects p R) (h : s.Alike p R t) :
    Option.Rel (Session.Alike p R) (s.step view) (t.step view) := by
  unfold Session.step
  obtain ⟨hs, ht⟩ | ⟨j, b, c, hs, ht, hbc⟩ := h.board.next? <;> rw [hs, ht]
  · exact .none
  · exact .some ((h.setBoard hbc).perform hview j)

theorem moveTo (h : s.Alike p R t) (time : Nat) :
    Session.Alike p R { s with board := s.board.moveTo time }
      { t with board := t.board.moveTo time } :=
  h.setBoard (h.board.moveTo time)

theorem stepOrMove (hview : view.Respects p R) (h : s.Alike p R t) (time : Nat) :
    Option.Rel (Session.Alike p R) ((machine view).stepOrMove (fun _ due => due ≤ time) s)
      ((machine view).stepOrMove (fun _ due => due ≤ time) t) := by
  have hstep := h.step hview
  have hdue : t.board.agenda.nextDue? = s.board.agenda.nextDue? := by rw [h.board.agenda]
  unfold Machine.stepOrMove
  dsimp only [machine]
  rw [hdue]
  generalize s.step view = s' at hstep ⊢
  generalize t.step view = t' at hstep ⊢
  cases hstep with
  | some hst => exact .some hst
  | none =>
    dsimp only
    split
    · split
      · exact .some (h.moveTo _)
      · exact .none
    · exact .none

theorem iterate {f : Session V → Option (Session V)}
    (hf : ∀ s t, s.Alike p R t → Option.Rel (Session.Alike p R) (f s) (f t)) (budget : Nat)
    (h : s.Alike p R t) :
    (Machine.iterate f budget s).Alike p R (Machine.iterate f budget t) := by
  induction budget generalizing s t with
  | zero => exact h
  | succ budget ih =>
    have hnext := hf s t h
    unfold Machine.iterate
    generalize f s = x at hnext
    generalize f t = y at hnext
    cases hnext with
    | none => exact h
    | some hst => exact ih hst

theorem launch (h : s.Alike p R t) (number : Nat) (actions : List Action) :
    (s.launch number actions).Alike p R (t.launch number actions) := by
  cases actions with
  | nil => exact { h with finished := congrArg (· ++ _) h.finished }
  | cons first rest => exact h.spawn _ _

end Alike

/-- What is done with a session. -/
inductive Deed where
  /-- The next job is done, if there is one. -/
  | job
  | wait (time : Nat)
  /-- Time passes up to a moment, with all that happens then. -/
  | pass (budget time : Nat)
  | launch (number : Nat) (actions : List Action)
  /-- An action is done at once, outside of any activity. -/
  | act (a : Action)
  | place (name : String) (e : Editor)
  | attach (b : Buffer) (name : String)
  | type (name text : String)
  | report (name : String)
  | close

def Deed.perform (view : View V) (s : Session V) : Deed → Session V
  | job => (s.step view).getD s
  | wait time => { s with board := s.board.moveTo time }
  | pass budget time => (machine view).passTo budget time s
  | launch number actions => s.launch number actions
  | act a => (s.act view a).2
  | place name e => { s with editors := s.editors ++ [(name, e)] }
  | attach b name => s.attach b name
  | type name text => s.typeInto name text
  | report name => s.report name
  | close => s.close

theorem Alike.deed (hview : view.Respects p R) (h : s.Alike p R t) (x : Deed) :
    (x.perform view s).Alike p R (x.perform view t) := by
  cases x with
  | job =>
    have hstep := h.step hview
    dsimp only [Deed.perform]
    generalize s.step view = s' at hstep
    generalize t.step view = t' at hstep
    cases hstep with
    | none => exact h
    | some hst => exact hst
  | wait time => exact h.moveTo time
  | pass budget time =>
    exact (Alike.iterate (fun _ _ h => h.stepOrMove hview time) budget h).moveTo time
  | launch number actions => exact h.launch number actions
  | act a => exact (Act.agree_start hview h a).alike
  | place name e => exact h.setEditors (congrArg (· ++ _) h.editors)
  | attach b name => exact h.attach b name
  | type name text => exact h.typeInto name text
  | report name => exact h.report name
  | close => exact h.close

theorem Alike.deeds (hview : view.Respects p R) (h : s.Alike p R t) (xs : List Deed) :
    (xs.foldl (Deed.perform view) s).Alike p R (xs.foldl (Deed.perform view) t) := by
  induction xs generalizing s t with
  | nil => exact h
  | cons x xs ih => exact ih (h.deed hview x)

/-! ## What the view is told -/

/-- A view that also keeps the events that it is told of, each with the documents of its moment. -/
def View.recording (view : View V) : View (V × List (Store × Event)) := fun store e x =>
  let (v, failure) := view store e x.1
  ((v, x.2 ++ [(store, e)]), failure)

/-- Views told of the same, up to answers that are alike. -/
structure RecordingAlike (p : Prop) (R : V → V → Prop) (x y : V × List (Store × Event)) : Prop where
  view : R x.1 y.1
  told : List.Forall₂ (fun a b => a.1.Alike p b.1 ∧ a.2.Alike p b.2) x.2 y.2

theorem RecordingAlike.eq {x y : V × List (Store × Event)} (h : RecordingAlike p Eq x y)
    (hp : ¬p) : y = x := by
  have htold : List.Forall₂ Eq x.2 y.2 :=
    h.told.imp fun a b hab => Prod.ext (hab.1.eq hp).symm (hab.2.eq hp).symm
  exact Prod.ext h.view.symm (List.forall₂_eq_eq_eq ▸ htold).symm

theorem View.Respects.recording (h : view.Respects p R) :
    view.recording.Respects p (RecordingAlike p R) := by
  intro st st' e e' x y hst he hxy
  obtain ⟨hview, hfailure⟩ := h st st' e e' x.1 y.1 hst he hxy.view
  exact ⟨⟨hview, List.rel_append hxy.told (.cons ⟨hst, he⟩ .nil)⟩, hfailure⟩

/-! ## Statuses that make no difference -/

/-- A new session that is used in some way, with a view that keeps what it is told. -/
def usedSession (view : View V) (settings : Settings) (window : Nat) (armed : Bool)
    (client : Service.Client) (owns watched : Bool) (v : V) (deeds : List Deed) (server : Server) :
    Session (V × List (Store × Event)) :=
  deeds.foldl (Deed.perform view.recording)
    (.new settings window armed client server owns watched (v, []))

variable {settings : Settings} {window : Nat} {armed : Bool} {client : Service.Client}
  {owns watched : Bool} {v : V} {server server' : Server}

theorem alike_usedSession (hview : view.Respects p R) (hv : R v v) (hserver : server.Alike p server')
    (deeds : List Deed) :
    (usedSession view settings window armed client owns watched v deeds server).Alike p
      (RecordingAlike p R)
      (usedSession view settings window armed client owns watched v deeds server') := by
  refine Alike.deeds hview.recording ?_ deeds
  exact { settings := rfl, store := .refl _, scheduler := rfl, board := ⟨rfl, .nil, rfl⟩, client := rfl
          ownsClient := rfl, server := hserver, generation := rfl, lastWarning := rfl, editors := rfl
          attached := rfl, known := rfl, watched := rfl, view := ⟨hv, .nil⟩, journal := .nil
          history := .nil, finished := rfl }

/-- An answer that can be decoded is read in the same way whatever its status is, and if it is as it
should be, the service was reached. -/
theorem read_answer {body : List Nat} {value : Json.Value}
    (hbody : Json.decodePayload body = .ok value) (status : Nat) :
    (∀ d verdict, Service.Verdict.ofValue value = .good verdict →
        Service.Client.readVerdict d (.answer status body) = ([], .ok verdict)) ∧
      ∀ o, Service.Outcome.hasInfiniteTime value = false →
        Service.Outcome.ofValue value = .good o →
          Service.Client.readOutcome (.answer status body) = ([], .ok o) := by
  have hread (e : Service.Endpoint) :
      Service.Client.readPosted e (.answer status body) = ([], .ok value) := by
    unfold Service.Client.readPosted
    dsimp only
    rw [hbody]
  constructor
  · intro d verdict hverdict
    unfold Service.Client.readVerdict
    dsimp only
    rw [hread]
    dsimp only
    rw [hverdict]
    rfl
  · intro o hfinite ho
    unfold Service.Client.readOutcome
    rw [hread]
    dsimp only
    rw [hfinite, ho]
    rfl

/-- Whatever is done with two sessions, and whenever: if the services give the same bodies after the same
times, with any statuses, then at every moment the same requests have gone out, and the documents, the
events and the notes are the same but for the status where a body cannot be decoded. Where bodies that
come with different statuses can be decoded, they are the same altogether. -/
theorem status_immaterial (hview : view.Respects True R) (hv : R v v)
    (hserver : server.Alike True server') (deeds : List Deed) :
    let s := usedSession view settings window armed client owns watched v deeds server
    let t := usedSession view settings window armed client owns watched v deeds server'
    (t.sent = s.sent ∧ s.store.Alike True t.store ∧ RecordingAlike True R s.view t.view ∧
        List.Forall₂ (NoteAlike True) s.journal t.journal ∧ t.finished = s.finished) ∧
      (server.Alike False server' →
        t.sent = s.sent ∧ t.store = s.store ∧ t.view = s.view ∧ t.finished = s.finished) ∧
      ∀ body value, Json.decodePayload body = .ok value → ∀ status,
        (∀ d verdict, Service.Verdict.ofValue value = .good verdict →
            Service.Client.readVerdict d (.answer status body) = ([], .ok verdict)) ∧
          ∀ o, Service.Outcome.hasInfiniteTime value = false →
            Service.Outcome.ofValue value = .good o →
              Service.Client.readOutcome (.answer status body) = ([], .ok o) := by
  intro s t
  refine ⟨?_, fun hdecoded => ?_, fun body value hbody status => read_answer hbody status⟩
  · have h : s.Alike True (RecordingAlike True R) t := alike_usedSession hview hv hserver deeds
    exact ⟨h.sent, h.store, h.view, h.journal, h.finished⟩
  · have h : s.Alike False (RecordingAlike False Eq) t :=
      alike_usedSession (view.respects_eq not_false) rfl hdecoded deeds
    exact ⟨h.sent, h.store.eq not_false, h.view.eq not_false, h.finished⟩

/-- A service that answers everything with one status: that a text is valid, and to a transform nothing
that can be decoded. -/
def statusServer (status : Nat) : Server :=
  { queue := fun _ => []
    usual := fun request =>
      let body := match request.endpoint with
        | .transform => "bad gateway"
        | _ => "\x7b\"valid\":true\x7d"
      { delay := 1000
        reaction := if request.endpoint = .operations then .timeout
          else .answer status (body.toUTF8.toList.map UInt8.toNat) } }

theorem alike_statusServer (status status' : Nat) :
    (statusServer status).Alike True (statusServer status') := by
  refine ⟨fun _ => .nil, fun r => ⟨rfl, ?_, fun h => ?_⟩⟩
  · unfold statusServer
    dsimp only
    split
    · exact .same _
    · exact .answer (.inl trivial)
  · unfold statusServer
    dsimp only
    rw [if_pos h, if_pos h]

/-- Both drafts are put in, and a second passes. -/
def bothEdited : List Deed :=
  [.launch 0 [.edit .input "1", .edit .spec "1"], .pass 100 1000000]

def statusSession (status : Nat) : Session (Unit × List (Store × Event)) :=
  usedSession blindView (localSession easyServer 0 true).settings 0 true localClient true true ()
    bothEdited (statusServer status)

/-- The drafts are valid, whether the service says so with status 200 or 502; the transform that follows
has failed, and its status tells which it was. -/
theorem status_immaterial_502 :
    (statusSession 200).store.bothValid = true ∧ (statusSession 200).sent.length = 3 ∧
      (statusSession 200).store.outputStatus.detail =
        some "Request failed: HTTP 200: response body is not JSON" ∧
      (statusSession 502).store.outputStatus.detail =
        some "Request failed: HTTP 502: response body is not JSON" ∧
      (statusSession 502).sent = (statusSession 200).sent := by
  refine ⟨by decide +kernel, by decide +kernel, by decide +kernel, by decide +kernel, ?_⟩
  have hview : blindView.Respects True Eq := fun _ _ _ _ _ _ _ _ h => ⟨h, rfl⟩
  exact (status_immaterial hview rfl (alike_statusServer 200 502) bothEdited).1.1

end Workbench.Session
