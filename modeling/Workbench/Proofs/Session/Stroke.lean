import Workbench.Proofs.Service.Sending
import Workbench.Proofs.Session.Lane
import Workbench.Proofs.Session.Work

/-!
# Work beside a validation

What stretches of work do as far as one draft goes, apart from its own validation: texts are put
into drafts, activities are started, and the session may be closed. All else that they do leaves the
draft, the timers and the activities as they are, and nothing about the draft is entered in the
history.
-/
namespace Workbench.Session

open Document (Buffer Draft)
open Service (Reaction)

variable {V : Type} {α β : Type} {view : View V} {d : Draft}

/-- What a happening is to a draft, if it concerns it. -/
def Happening.moment? (d : Draft) : Happening → Option Moment
  | .edited _ e text => if e = d then some (.edited text) else none
  | .sent s reply =>
    if s.outgoing.request.endpoint = .validate d then
      some (.asked s.time s.outgoing.request reply)
    else none
  | .refused (.validate e text) _ => if e = d then some (.refused text) else none
  | .judged e text result => if e = d then some (.heard text result) else none
  | .closed _ => some .closed
  | _ => none

/-- Nothing has become of the draft, the timers, the activities and the client. -/
structure Aside (d : Draft) (s t : Session V) : Prop where
  draft : t.store.draft d = s.store.draft d
  scheduler : t.scheduler = s.scheduler
  board : t.board = s.board
  client : t.client = s.client
  ownsClient : t.ownsClient = s.ownsClient
  history : ∃ new, t.history = s.history ++ new ∧ ∀ h ∈ new, h.moment? d = none

theorem Aside.of_store {s t : Session V} (hstore : t.store = s.store)
    (hscheduler : t.scheduler = s.scheduler) (hboard : t.board = s.board)
    (hclient : t.client = s.client) (howns : t.ownsClient = s.ownsClient)
    (hhistory : t.history = s.history) : Aside d s t :=
  ⟨by rw [hstore], hscheduler, hboard, hclient, howns, [], by rw [hhistory, List.append_nil],
    by simp⟩

theorem aside_noteAll (s : Session V) (ns : List Note) : Aside d s (s.noteAll ns) :=
  .of_store rfl rfl rfl rfl rfl rfl

/-- Something else is entered in the history. -/
theorem aside_record (s : Session V) {h : Happening} (hh : h.moment? d = none) :
    Aside d s (s.record h) := ⟨rfl, rfl, rfl, rfl, rfl, [h], rfl, by simpa using hh⟩

theorem aside_begin (s : Session V) : Aside d s s.begin :=
  ⟨draft_begin s d, rfl, rfl, rfl, rfl, _, history_begin s, by simp [Happening.moment?]⟩

theorem aside_switch (s : Session V) (armed : Bool) : Aside d s (s.switch armed) :=
  ⟨draft_switch s d armed, rfl, rfl, rfl, rfl, _, history_switch s armed,
    by simp [Happening.moment?]⟩

theorem aside_hearOutcome (s : Session V) (generation : Nat)
    (result : Except Failure Service.Outcome) : Aside d s (s.hearOutcome generation result) :=
  ⟨draft_hearOutcome s d generation result, rfl, rfl, rfl, rfl, _,
    history_hearOutcome s generation result, by simp [Happening.moment?]⟩

/-- The validation of another draft ends. -/
theorem aside_hearVerdict (s : Session V) {e : Draft} (he : e ≠ d) (text : String)
    (result : Except Failure Service.Verdict) : Aside d s (s.hearVerdict e text result) := by
  refine ⟨?_, rfl, rfl, rfl, rfl, _, history_hearVerdict s e text result,
    by simp [Happening.moment?, he]⟩
  rw [draft_hearVerdict, if_neg fun h => he h.1]

/-! ## Strokes -/

/-- An action that validates nothing by itself. -/
def Action.isOrdinary : Action → Bool
  | .validate .. => false
  | _ => true

/-- A stage that is not one of the validation of a draft, nor of a text of no draft. -/
def Stage.isBeside (d : Draft) : Stage → Bool
  | .start (.validate b _) => b.draft?.any (· ≠ d)
  | .start a => a.isOrdinary
  | .verdict e _ _ => e ≠ d
  | .stray .. => false
  | _ => true

theorem Stage.isBeside_start {a : Action} (h : a.isOrdinary = true) :
    (Stage.start a).isBeside d = true := by
  cases a <;> first | exact h | cases h

/-- A plan with no stage of a draft's own validation. -/
structure Plan.IsBeside (d : Draft) (p : Plan) : Prop where
  stage : p.stage.isBeside d = true
  rest : ∀ a ∈ p.rest, a.isOrdinary = true

theorem Plan.IsBeside.single {stage : Stage} (h : stage.isBeside d = true) :
    Plan.IsBeside d { stage } := by
  refine ⟨h, fun a ha => ?_⟩
  cases ha

/-- One thing that is done beside the validation of a draft. -/
inductive Stroke (d : Draft) : Session V → Session V → Prop
  | aside {s t} (h : Aside d s t) : Stroke d s t
  | spawn {s t} (role) {plan} (hplan : Plan.IsBeside d plan)
      (h : Aside d { s with board := s.board.spawn role plan } t) : Stroke d s t
  | edit (s e text) : Stroke d s (s.putText e text)
  | close (s) : Stroke d s s.close

abbrev Strokes (d : Draft) : Session V → Session V → Prop := Relation.ReflTransGen (Stroke d)

def Progress.isBeside (d : Draft) : Progress → Prop
  | .done _ => True
  | .paused _ next => next.isBeside d = true

namespace Act

/-- A stretch of work that goes by such strokes, with a result as is said. -/
structure ByStrokes (d : Draft) (x : Act V α) (good : α → Prop) : Prop where
  strokes : ∀ s, Strokes d s (x.run s).2
  result : ∀ s a, (x.run s).1 = .ok a → good a

variable {good : α → Prop} {good' : β → Prop}

/-! ### Putting stretches of work together -/

theorem byStrokes_pure {a : α} (h : good a) : ByStrokes d (pure a : Act V α) good where
  strokes s := by rw [run_pure]
  result s b hb := by
    rw [run_pure] at hb
    cases hb
    exact h

theorem byStrokes_throw {f : Failure} : ByStrokes d (throw f : Act V α) good where
  strokes _ := .refl
  result _ _ h := by cases h

theorem ByStrokes.bind {x : Act V α} {f : α → Act V β} (hx : ByStrokes d x good)
    (hf : ∀ a, good a → ByStrokes d (f a) good') : ByStrokes d (x >>= f) good' where
  strokes s := by
    have ht := hx.strokes s
    rw [run_bind]
    rcases hr : x.run s with ⟨e | a, t⟩
    · rwa [hr] at ht
    · rw [hr] at ht
      exact ht.trans ((hf a (hx.result s a (by rw [hr]))).strokes t)
  result s b hb := by
    rw [run_bind] at hb
    rcases hr : x.run s with ⟨e | a, t⟩
    · rw [hr] at hb
      cases hb
    · rw [hr] at hb
      exact (hf a (hx.result s a (by rw [hr]))).result t b hb

theorem byStrokes_get {f : Session V → Act V β} (h : ∀ s, ByStrokes d (f s) good') :
    ByStrokes d (get >>= f) good' :=
  ⟨fun s => (h s).strokes s, fun s => (h s).result s⟩

theorem byStrokes_change {g : Session V → Session V} {f : Unit → Act V β}
    (hg : ∀ s, Strokes d s (g s)) (hf : ByStrokes d (f ()) good') :
    ByStrokes d (change g >>= f) good' := by
  have hchange : ByStrokes d (change g) fun _ => True := by
    refine ⟨fun s => ?_, fun _ _ _ => trivial⟩
    rw [run_change]
    exact hg s
  exact hchange.bind fun _ _ => hf

theorem byStrokes_aside {g : Session V → Session V} {f : Unit → Act V β}
    (hg : ∀ s, Aside d s (g s)) (hf : ByStrokes d (f ()) good') :
    ByStrokes d (change g >>= f) good' := byStrokes_change (fun s => .single (.aside (hg s))) hf

theorem byStrokes_write {n : Note} {f : Unit → Act V β} (h : ByStrokes d (f ()) good') :
    ByStrokes d (write n >>= f) good' := byStrokes_aside (fun s => aside_noteAll s [n]) h

theorem ByStrokes.before {x : Act V α} {f : α → Act V β} (hx : ByStrokes d x fun _ => True)
    (hf : ∀ a, ByStrokes d (f a) good') : ByStrokes d (x >>= f) good' := hx.bind fun a _ => hf a

theorem byStrokes_done (a : Answer) :
    ByStrokes d (pure (.done a) : Act V Progress) (Progress.isBeside d) := byStrokes_pure trivial

/-! ### Telling of something -/

theorem byStrokes_present (e : Event) : ByStrokes d (present view e) fun _ => True := by
  refine ⟨fun s => .single (.aside ?_), fun _ _ _ => trivial⟩
  rw [run_present]
  exact .of_store rfl rfl rfl rfl rfl rfl

theorem byStrokes_announce (e : Event) : ByStrokes d (announce view e) fun _ => True := by
  refine byStrokes_get fun s => ?_
  unfold Bus.dispatch
  split
  · exact byStrokes_write (byStrokes_present e)
  · exact byStrokes_write (byStrokes_pure trivial)

theorem byStrokes_announceState (b : Buffer) :
    ByStrokes d (announceState view b) fun _ => True := byStrokes_announce _

theorem byStrokes_announceNotice (message : String) (level : NoticeLevel) :
    ByStrokes d (announceNotice view message level) fun _ => True := byStrokes_announce _

theorem byStrokes_reportOutcome (generation : Nat) (o : Except String Service.Outcome) :
    ByStrokes d (reportOutcome view generation o) fun _ => True := by
  unfold reportOutcome
  split
  · exact byStrokes_write ((byStrokes_announceState _).before fun _ => byStrokes_announceNotice _ _)
  · split
    · exact byStrokes_write
        ((byStrokes_announceState _).before fun _ => byStrokes_announceNotice _ _)
    · exact byStrokes_write
        ((byStrokes_announceState _).before fun _ => byStrokes_announceNotice _ _)

/-! ### Editors -/

/-- What is of no concern to drafts and timers has become of the editors. -/
theorem strokes_editors (s : Session V) (editors : Editors) (attached : Buffer → Option String)
    (known : Draft → Option String) : Strokes d s { s with editors, attached, known } :=
  .single (.aside (.of_store rfl rfl rfl rfl rfl rfl))

theorem strokes_syncEditor (b : Buffer) (text : String) (s : Session V) :
    Strokes d s (s.syncEditor b text) := by
  unfold syncEditor
  split
  · exact .refl
  split
  · exact .refl
  split
  · exact .refl
  dsimp only
  split
  · exact .single (.spawn _ (.single rfl) (.of_store rfl rfl rfl rfl rfl rfl))
  · exact strokes_editors s _ _ _

theorem strokes_hear (text : String) (e : Draft) (s : Session V) :
    Strokes d s (s.hear text e) := by
  unfold hear
  split
  · exact .refl
  · exact .single (.spawn _ (.single rfl) (.of_store rfl rfl rfl rfl rfl rfl))

theorem strokes_report (name : String) (s : Session V) : Strokes d s (s.report name) := by
  have hall (text : String) (es : List Draft) (t : Session V) :
      Strokes d t (es.foldl (hear text) t) := by
    induction es generalizing t with
    | nil => exact .refl
    | cons e es ih => exact (strokes_hear text e t).trans (ih _)
  unfold report
  split
  · exact (strokes_editors s _ _ _).trans (hall _ _ _)
  · exact .refl

theorem strokes_typeInto (name text : String) (s : Session V) :
    Strokes d s (s.typeInto name text) := (strokes_editors s _ _ _).trans (strokes_report name _)

theorem strokes_attach (b : Buffer) (name : String) (s : Session V) :
    Strokes d s (s.attach b name) := by
  unfold attach
  split
  · exact (strokes_editors s _ _ _).trans (strokes_syncEditor _ _ _)
  · dsimp only
    split
    · exact (strokes_editors s _ _ _).trans (strokes_hear _ _ _)
    · exact strokes_editors s _ _ _

theorem strokes_applyEdit (e : Draft) (text : String) (fromEditor : Bool) (s : Session V) :
    Strokes d s (s.applyEdit e text fromEditor) := by
  have hsync (t : Session V) : Strokes d t ((t.setKnown e text).syncEditor e.buffer text) :=
    (strokes_editors t _ _ _).trans (strokes_syncEditor _ _ _)
  have hoverwrite : Strokes d s (s.overwrite e text) := by
    unfold overwrite
    split
    · exact hsync s
    · exact .head (.aside (aside_record s rfl)) (hsync _)
  unfold applyEdit
  cases fromEditor
  · exact hoverwrite.tail (.edit _ e text)
  · exact .single (.edit s e text)

/-! ### Calls -/

/-- A call that does not go to where the draft is validated. -/
theorem byStrokes_send {c : Service.Call} (hc : c.endpoint ≠ .validate d) :
    ByStrokes d (send c : Act V Service.Reply) fun _ => True := by
  refine byStrokes_aside (fun s => aside_noteAll s _) ?_
  -- what is sent depends on the session, so the calls are followed state by state
  refine ⟨fun s => ?_, fun _ _ _ => trivial⟩
  rw [run_bind, run_get]
  dsimp only
  split
  · refine .single (.aside (aside_record s ?_))
    cases c with
    | validate e text =>
      refine if_neg ?_
      rintro rfl
      exact hc rfl
    | _ => rfl
  case h_2 out reply server hsend =>
    have hout : out.request.endpoint = c.endpoint :=
      Service.Client.endpoint_of_send hsend
    refine .single (.aside ⟨rfl, rfl, rfl, rfl, rfl, _, rfl, ?_⟩)
    simp [Happening.moment?, hout, hc]

theorem byStrokes_receive {reply : Service.Reply} {now : Reaction → Act V Progress}
    {later : Reaction → Stage} (hnow : ∀ r, ByStrokes d (now r) (Progress.isBeside d))
    (hlater : ∀ r, (later r).isBeside d = true) :
    ByStrokes d (receive reply now later) (Progress.isBeside d) := by
  unfold receive
  split
  · exact hnow _
  · exact byStrokes_pure (hlater _)

theorem byStrokes_reached {γ : Type} (result : Except Failure γ) :
    ByStrokes d (reached result : Act V _) fun _ => True := by
  unfold reached
  split
  · exact byStrokes_pure trivial
  · exact byStrokes_pure trivial
  · exact byStrokes_throw

/-! ### Transforms -/

theorem byStrokes_conclude (requested : Bool) (o : Option Service.Outcome) :
    ByStrokes d (conclude requested o : Act V Progress) (Progress.isBeside d) := by
  unfold conclude
  split
  · exact byStrokes_change (fun s => strokes_syncEditor _ _ s) (byStrokes_done _)
  · exact byStrokes_done _

theorem byStrokes_finishTransform (generation : Nat) (requested : Bool) (r : Reaction) :
    ByStrokes d (finishTransform view generation requested r) (Progress.isBeside d) := by
  refine byStrokes_aside (fun s => aside_noteAll s _) (byStrokes_get fun s => ?_)
  refine byStrokes_aside (fun t => aside_hearOutcome t generation _) ?_
  refine (byStrokes_reached _).before fun o => ?_
  dsimp only
  split
  · exact (byStrokes_reportOutcome _ _).before fun _ => byStrokes_conclude _ _
  · exact byStrokes_write (byStrokes_conclude _ _)

theorem byStrokes_callTransform (requested : Bool) :
    ByStrokes d (callTransform view requested) (Progress.isBeside d) := by
  refine byStrokes_get fun s => byStrokes_write ?_
  refine (byStrokes_announceState _).before fun _ => ?_
  refine (byStrokes_send (by cases d <;> simp [Service.Call.endpoint,
    Service.Endpoint.validate])).before fun r => ?_
  exact byStrokes_receive (fun r => byStrokes_finishTransform _ _ r) fun _ => rfl

theorem byStrokes_beginTransform (requested : Bool) :
    ByStrokes d (beginTransform view requested) (Progress.isBeside d) :=
  byStrokes_aside aside_begin (byStrokes_callTransform requested)

theorem byStrokes_transform : ByStrokes d (transform view) (Progress.isBeside d) := by
  refine byStrokes_get fun s => ?_
  split
  · exact byStrokes_throw
  · exact byStrokes_beginTransform false

theorem byStrokes_handleTransform : ByStrokes d (handleTransform view) (Progress.isBeside d) := by
  refine byStrokes_get fun s => ?_
  split
  · refine byStrokes_aside (fun _ => .of_store rfl rfl rfl rfl rfl rfl) (byStrokes_write ?_)
    exact (byStrokes_announceNotice _ _).before fun _ => byStrokes_done _
  · exact byStrokes_beginTransform true

theorem byStrokes_requestTransform : ByStrokes d (requestTransform view) (Progress.isBeside d) :=
  byStrokes_get fun _ => byStrokes_write byStrokes_handleTransform

theorem byStrokes_triggerTransform : ByStrokes d (triggerTransform view) (Progress.isBeside d) :=
  byStrokes_aside (fun s => aside_record s rfl) byStrokes_requestTransform

/-! ### Validation -/

theorem byStrokes_reportVerdict (e : Draft) (v : Service.Verdict) (wasReady : Bool) :
    ByStrokes d (reportVerdict view e v wasReady) (Progress.isBeside d) := by
  refine byStrokes_write ((byStrokes_announceState _).before fun _ => byStrokes_get fun s => ?_)
  dsimp only
  split
  · exact byStrokes_write byStrokes_triggerTransform
  · exact byStrokes_done _

/-- What comes of a verdict is told after the draft has heard it, and that goes beside its
validation. -/
theorem run_finishValidation (view : View V) (e : Draft) (text : String) (r : Reaction)
    (s : Session V) :
    ∃ tell : Act V Progress, (∀ d, ByStrokes d tell (Progress.isBeside d)) ∧
      (finishValidation view e text r).run s =
        tell.run ((s.noteAll (Service.Client.readVerdict e r).1).hearVerdict e text
          (Service.Client.readVerdict e r).2) := by
  unfold finishValidation
  rcases Service.Client.readVerdict e r with ⟨notes, result⟩
  apply Exists.intro
  constructor
  case right =>
    dsimp only
    rw [run_bind, run_change]
    dsimp only
    rw [run_bind, run_get]
    dsimp only
    rw [run_bind, run_change]
  case left =>
    intro d
    refine (byStrokes_reached _).before fun verdict => ?_
    split
    · exact byStrokes_write (byStrokes_done _)
    split
    · exact byStrokes_reportVerdict _ _ _
    · exact byStrokes_write ((byStrokes_announceState _).before fun _ => byStrokes_done _)

/-- The verdict on another draft. -/
theorem byStrokes_finishValidation {e : Draft} (he : e ≠ d) (text : String) (r : Reaction) :
    ByStrokes d (finishValidation view e text r) (Progress.isBeside d) := by
  refine ⟨fun s => ?_, fun s a ha => ?_⟩
  · obtain ⟨tell, htell, hrun⟩ := run_finishValidation view e text r s
    rw [hrun]
    exact .head (.aside (aside_noteAll s _))
      (.head (.aside (aside_hearVerdict _ he text _)) ((htell d).strokes _))
  · obtain ⟨tell, htell, hrun⟩ := run_finishValidation view e text r s
    rw [hrun] at ha
    exact (htell d).result _ a ha

/-- The validation of another draft. -/
theorem byStrokes_validate {b : Buffer} {e : Draft} (hb : b.draft? = some e) (he : e ≠ d)
    (text : String) : ByStrokes d (validate view b text) (Progress.isBeside d) := by
  unfold validate
  rw [hb]
  refine (byStrokes_send ?_).before fun reply => ?_
  · cases d <;> cases e <;> first | exact absurd rfl he | simp [Service.Call.endpoint,
      Service.Endpoint.validate]
  · exact byStrokes_receive (fun r => byStrokes_finishValidation he text r) fun r => by
      simpa [Stage.isBeside] using he

/-! ### Edits -/

theorem byStrokes_handleEdit (e : Event) :
    ByStrokes d (handleEdit view e) (Progress.isBeside d) := by
  unfold handleEdit
  split
  · refine byStrokes_change (fun s => strokes_applyEdit _ _ _ s) ?_
    exact (byStrokes_announceState _).before fun _ => byStrokes_done _
  · exact byStrokes_write (byStrokes_done _)

theorem byStrokes_handleArmed (armed : Bool) :
    ByStrokes d (handleArmed view armed) (Progress.isBeside d) := by
  refine byStrokes_get fun s => byStrokes_aside (fun t => aside_switch t armed) ?_
  refine byStrokes_write ?_
  split
  · exact byStrokes_triggerTransform
  · exact byStrokes_done _

theorem byStrokes_dispatch (e : Event) : ByStrokes d (dispatch view e) (Progress.isBeside d) := by
  refine byStrokes_get fun s => ?_
  unfold Bus.dispatch
  split
  · refine byStrokes_write ?_
    dsimp only
    split
    · exact byStrokes_handleEdit e
    · exact byStrokes_handleTransform
    · exact byStrokes_handleArmed _
    · exact (byStrokes_present e).before fun _ => byStrokes_done _
  · exact byStrokes_write (byStrokes_done _)

theorem byStrokes_announceFormatted (b : Buffer) :
    ByStrokes d (announceFormatted view b) (Progress.isBeside d) := by
  unfold announceFormatted
  split
  · exact (byStrokes_announceNotice _ _).before fun _ => byStrokes_done _
  · exact byStrokes_throw

theorem byStrokes_format (b : Buffer) :
    ByStrokes d (format view b) (Progress.isBeside d) := by
  refine byStrokes_get fun s => ?_
  dsimp only
  split
  · exact byStrokes_done _
  split
  · exact (byStrokes_announceNotice _ _).before fun _ => byStrokes_done _
  split
  · exact (byStrokes_dispatch _).bind fun _ _ => byStrokes_announceFormatted b
  · exact byStrokes_announceFormatted b

theorem byStrokes_clear (e : Draft) : ByStrokes d (clear view e) (Progress.isBeside d) :=
  (byStrokes_dispatch _).bind fun _ _ =>
    (byStrokes_announceNotice _ _).before fun _ => byStrokes_done _

/-! ### All stages -/

theorem byStrokes_plainly {f : Session V → Session V} (h : ∀ s, Strokes d s (f s)) :
    ByStrokes d (plainly f) (Progress.isBeside d) := byStrokes_change h (byStrokes_done _)

theorem byStrokes_finishOperations (r : Reaction) :
    ByStrokes d (finishOperations r : Act V Progress) (Progress.isBeside d) := by
  unfold finishOperations
  split
  · exact byStrokes_done _
  · exact byStrokes_throw

theorem byStrokes_listOperations :
    ByStrokes d (listOperations : Act V Progress) (Progress.isBeside d) := by
  refine (byStrokes_send (by cases d <;> simp [Service.Call.endpoint,
    Service.Endpoint.validate])).before fun _ => ?_
  exact byStrokes_receive (fun r => byStrokes_finishOperations r) fun _ => rfl

theorem byStrokes_awaitEdits {otherwise : Progress} (h : otherwise.isBeside d) :
    ByStrokes d (awaitEdits otherwise : Act V Progress) (Progress.isBeside d) := by
  refine byStrokes_get fun s => ?_
  dsimp only
  split
  · exact byStrokes_pure h
  · exact byStrokes_pure rfl

theorem byStrokes_drain : ByStrokes d (drain : Act V Progress) (Progress.isBeside d) := by
  refine byStrokes_get fun s => ?_
  split
  · exact byStrokes_pure rfl
  · exact byStrokes_pure rfl
  · exact byStrokes_awaitEdits trivial

theorem byStrokes_settle : ByStrokes d (settle : Act V Progress) (Progress.isBeside d) := by
  refine byStrokes_get fun s => ?_
  split
  · exact byStrokes_drain
  · exact byStrokes_awaitEdits trivial

/-- Starting an action that is ordinary, or the validation of another draft. -/
theorem byStrokes_start {a : Action} (h : (Stage.start a).isBeside d = true) :
    ByStrokes d (start view a) (Progress.isBeside d) := by
  cases a with
  | edit b text => exact byStrokes_dispatch _
  | format b => exact byStrokes_format b
  | clear e => exact byStrokes_clear e
  | requestTransform => exact byStrokes_requestTransform
  | setArmed armed => exact byStrokes_dispatch _
  | validate b text =>
    obtain ⟨e, hb, he⟩ := Option.any_eq_true _ _ |>.mp h
    exact byStrokes_validate hb (by simpa using he) text
  | transform => exact byStrokes_transform
  | checkDrafts =>
    refine byStrokes_get fun s => ?_
    split
    · exact byStrokes_throw
    · exact byStrokes_done _
  | dispatch e => exact byStrokes_dispatch e
  | listOperations => exact byStrokes_listOperations
  | treeView => exact byStrokes_get fun _ => byStrokes_done _
  | settle => exact byStrokes_settle
  | enter => exact byStrokes_done _
  | close => exact byStrokes_plainly fun s => .single (.close s)
  | attach b name => exact byStrokes_change (strokes_attach b name) (byStrokes_done _)
  | type name text =>
    refine byStrokes_get fun s => ?_
    split
    · exact byStrokes_plainly fun s => strokes_typeInto name text s
    · exact byStrokes_throw
  | report name => exact byStrokes_plainly fun s => strokes_report name s

/-- Going on with a stage. -/
theorem byStrokes_goOn {stage : Stage} (h : stage.isBeside d = true) :
    ByStrokes d (goOn view stage) (Progress.isBeside d) := by
  cases stage with
  | start a => exact byStrokes_start h
  | verdict e text r => exact byStrokes_finishValidation (by simpa [Stage.isBeside] using h) text r
  | stray text r => cases h
  | outcome generation requested r => exact byStrokes_finishTransform generation requested r
  | names r => exact byStrokes_finishOperations r
  | drain => exact byStrokes_drain

end Act

/-- Whoever has to wait after such a stretch of work has such a plan. -/
def Course.IsBeside (d : Draft) : Course → Prop
  | .done _ => True
  | .paused _ next => next.IsBeside d

/-- Going through a stage and the actions after it. -/
theorem byStrokes_follow {rest : List Action} (hrest : ∀ a ∈ rest, a.isOrdinary = true)
    {stage : Stage} (hstage : stage.isBeside d = true) (answers : List Answer) :
    Act.ByStrokes d (follow view rest stage answers) (Course.IsBeside d) := by
  induction rest generalizing stage answers with
  | nil =>
    refine (Act.byStrokes_goOn hstage).bind fun p hp => ?_
    cases p with
    | done a => exact Act.byStrokes_pure trivial
    | paused pause next => exact Act.byStrokes_pure ⟨hp, by simp⟩
  | cons action rest ih =>
    refine (Act.byStrokes_goOn hstage).bind fun p hp => ?_
    cases p with
    | done a =>
      obtain ⟨haction, hrest⟩ := List.forall_mem_cons.mp hrest
      exact ih hrest (Stage.isBeside_start haction) _
    | paused pause next => exact Act.byStrokes_pure ⟨hp, hrest⟩

end Workbench.Session
