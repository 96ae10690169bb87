import Workbench.Proofs.Session.Work
import Workbench.Proofs.Turn.Line

/-!
# What stretches of work do to texts

Editors, the texts known to be in them and the texts of the drafts are changed in few ways: a text
is put into a draft, a user types, an editor reports or is attached, or the output is shown. Every
stretch of work goes by such touches. Main definitions: `Scope`, which of them may occur, and
`Touch`.
-/
namespace Workbench.Session

open Document (Buffer Draft)
open Service (Reaction)
open Turn (Board)

variable {V : Type} {α β : Type} {view : View V}

/-- Does it tell of the texts of a draft? -/
def Happening.isOfTexts : Happening → Bool
  | .edited .. | .overtook _ => true
  | _ => false

/-- Nothing has become of the editors, of what is known of them and of the texts of the drafts. -/
structure SameBench (s t : Session V) : Prop where
  editors : t.editors = s.editors
  attached : t.attached = s.attached
  known : t.known = s.known
  text : ∀ d, (t.store.draft d).text = (s.store.draft d).text
  history : t.history.filter Happening.isOfTexts = s.history.filter Happening.isOfTexts

theorem SameBench.trans {s t u : Session V} (h : SameBench s t) (h' : SameBench t u) :
    SameBench s u :=
  ⟨h'.editors.trans h.editors, h'.attached.trans h.attached, h'.known.trans h.known,
    fun d => (h'.text d).trans (h.text d), h'.history.trans h.history⟩

/-- The same activities stand in line, too. -/
structure Aloof (s t : Session V) : Prop extends SameBench s t where
  board : Board.SameLine s.board t.board

theorem Aloof.trans {s t u : Session V} (h : Aloof s t) (h' : Aloof t u) : Aloof s u :=
  ⟨h.toSameBench.trans h'.toSameBench, h.board.trans h'.board⟩

theorem Still.aloof {s t : Session V} (h : Still s t) : Aloof s t :=
  ⟨⟨h.editors, h.attached, h.known, fun d => by rw [h.store], by rw [h.history]⟩,
    by rw [h.board]; exact .refl _⟩

theorem aloof_noteAll (s : Session V) (ns : List Note) : Aloof s (s.noteAll ns) :=
  Still.aloof ⟨⟨rfl, rfl, rfl, rfl, rfl⟩, rfl, rfl, rfl⟩

/-- Something else is entered in the history. -/
theorem filter_isOfTexts_append (history : List Happening) {h : Happening}
    (hh : h.isOfTexts = false) :
    (history ++ [h]).filter Happening.isOfTexts = history.filter Happening.isOfTexts := by
  rw [List.filter_append, List.filter_singleton, hh, cond_false, List.append_nil]

theorem aloof_record (s : Session V) {h : Happening} (hh : h.isOfTexts = false) :
    Aloof s (s.record h) :=
  ⟨⟨rfl, rfl, rfl, fun _ => rfl, filter_isOfTexts_append _ hh⟩, .refl _⟩

theorem aloof_begin (s : Session V) : Aloof s s.begin :=
  ⟨⟨rfl, rfl, rfl, fun d => by rw [draft_begin], filter_isOfTexts_append _ rfl⟩, .refl _⟩

theorem aloof_switch (s : Session V) (armed : Bool) : Aloof s (s.switch armed) :=
  ⟨⟨rfl, rfl, rfl, fun d => by rw [draft_switch], filter_isOfTexts_append _ rfl⟩, .refl _⟩

theorem aloof_hearVerdict (s : Session V) (e : Draft) (text : String)
    (result : Except Failure Service.Verdict) : Aloof s (s.hearVerdict e text result) :=
  ⟨⟨rfl, rfl, rfl, fun d => text_hearVerdict s e d text result, filter_isOfTexts_append _ rfl⟩,
    .refl _⟩

theorem aloof_hearOutcome (s : Session V) (generation : Nat)
    (result : Except Failure Service.Outcome) : Aloof s (s.hearOutcome generation result) :=
  ⟨⟨rfl, rfl, rfl, fun d => by rw [draft_hearOutcome], filter_isOfTexts_append _ rfl⟩, .refl _⟩

theorem aloof_close (s : Session V) : Aloof s s.close :=
  ⟨⟨rfl, rfl, rfl, fun _ => rfl, filter_isOfTexts_append _ rfl⟩, Board.sameLine_disarmAll _ _⟩

/-! ## Touches -/

/-- What may be done in a session: which drafts are given a text, by an event that says of itself
that it comes from an editor or does not; into which editors is typed; and which are attached to
what. -/
structure Scope where
  edits : Draft → Bool → Prop
  types : String → Prop
  attaches : Buffer → String → Prop

variable {σ : Scope}

/-- One step of a stretch of work, as far as editors and texts go. -/
inductive Touch (σ : Scope) : Session V → Session V → Prop
  | rest {s t} (h : Aloof s t) : Touch σ s t
  | edit (s d text fromEditor) (h : σ.edits d fromEditor) :
      Touch σ s (s.applyEdit d text fromEditor)
  | type (s name text) (h : σ.types name) : Touch σ s (s.typeInto name text)
  | report (s name) : Touch σ s (s.report name)
  | attach (s b name) (h : σ.attaches b name) : Touch σ s (s.attach b name)
  | output (s text) : Touch σ s (s.syncEditor .output text)

abbrev Touches (σ : Scope) : Session V → Session V → Prop := Relation.ReflTransGen (Touch σ)

/-- May the buffer be given a text? -/
def Scope.Edits (σ : Scope) (b : Option Buffer) (fromEditor : Bool) : Prop :=
  ∀ d, b.bind Buffer.draft? = some d → σ.edits d fromEditor

/-- An action that does nothing else to editors and texts. -/
def Action.Within (σ : Scope) : Action → Prop
  | .edit b _ => σ.Edits (some b) false
  | .format b => σ.Edits (some b) false
  | .clear d => σ.edits d false
  | .dispatch e => e.type = .bufferEdited → σ.Edits e.buffer e.fromEditor
  | .attach b name => σ.attaches b name
  | .type name _ => σ.types name
  | _ => True

/-- A stage that goes on with nothing else. -/
def Stage.Within (σ : Scope) : Stage → Prop
  | .start a => a.Within σ
  | _ => True

/-- A plan that goes on with nothing else. -/
structure Plan.Within (σ : Scope) (p : Plan) : Prop where
  stage : p.stage.Within σ
  rest : ∀ a ∈ p.rest, a.Within σ

/-- Has the stage begun before? -/
def Stage.isUnderWay : Stage → Bool
  | .start _ => false
  | _ => true

/-- Whoever has to wait takes up what it has begun. -/
def Progress.IsUnderWay : Progress → Prop
  | .done _ => True
  | .paused _ next => next.isUnderWay = true

/-- Whoever has to wait has to do after that what it had to do before, and nothing else. -/
def Course.IsUnderWay (rest : List Action) : Course → Prop
  | .done _ => True
  | .paused _ next => next.stage.isUnderWay = true ∧ ∀ a ∈ next.rest, a ∈ rest

theorem Stage.within_of_isUnderWay {stage : Stage} (h : stage.isUnderWay = true) :
    stage.Within σ := by
  cases stage with
  | start => cases h
  | _ => trivial

namespace Act

/-- A stretch of work that goes by such steps, with a result as is said. -/
structure ByTouches (σ : Scope) (x : Act V α) (good : α → Prop) : Prop where
  touches : ∀ s, Touches σ s (x.run s).2
  result : ∀ s a, (x.run s).1 = .ok a → good a

variable {good : α → Prop} {good' : β → Prop}

/-! ## Putting stretches of work together -/

theorem byTouches_pure {a : α} (h : good a) : ByTouches σ (pure a : Act V α) good where
  touches s := by rw [run_pure]
  result s b hb := by
    rw [run_pure] at hb
    cases hb
    exact h

theorem byTouches_throw {f : Failure} : ByTouches σ (throw f : Act V α) good where
  touches _ := .refl
  result _ _ h := by cases h

theorem ByTouches.bind {x : Act V α} {f : α → Act V β} (hx : ByTouches σ x good)
    (hf : ∀ a, good a → ByTouches σ (f a) good') : ByTouches σ (x >>= f) good' where
  touches s := by
    have ht := hx.touches s
    rw [run_bind]
    rcases hr : x.run s with ⟨e | a, t⟩
    · rwa [hr] at ht
    · rw [hr] at ht
      exact ht.trans ((hf a (hx.result s a (by rw [hr]))).touches t)
  result s b hb := by
    rw [run_bind] at hb
    rcases hr : x.run s with ⟨e | a, t⟩
    · rw [hr] at hb
      cases hb
    · rw [hr] at hb
      exact (hf a (hx.result s a (by rw [hr]))).result t b hb

theorem ByTouches.mono {x : Act V α} {good' : α → Prop} (hx : ByTouches σ x good)
    (h : ∀ a, good a → good' a) : ByTouches σ x good' :=
  ⟨hx.touches, fun s a ha => h a (hx.result s a ha)⟩

theorem byTouches_get {f : Session V → Act V β} (h : ∀ s, ByTouches σ (f s) good') :
    ByTouches σ (get >>= f) good' :=
  ⟨fun s => (h s).touches s, fun s => (h s).result s⟩

theorem byTouches_change {g : Session V → Session V} {f : Unit → Act V β}
    (hg : ∀ s, Touch σ s (g s)) (hf : ByTouches σ (f ()) good') :
    ByTouches σ (change g >>= f) good' := by
  have hchange : ByTouches σ (change g) fun _ => True := by
    refine ⟨fun s => ?_, fun _ _ _ => trivial⟩
    rw [run_change]
    exact .single (hg s)
  exact hchange.bind fun _ _ => hf

theorem IsQuiet.byTouches {x : Act V α} (hx : IsQuiet view x) :
    ByTouches σ x fun _ => True :=
  ⟨fun s => .single (.rest (hx.still s).aloof), fun _ _ _ => trivial⟩

/-- What only tells of something comes before the rest. -/
theorem IsQuiet.byTouches_bind {x : Act V α} {f : α → Act V β} (hx : IsQuiet view x)
    (hf : ∀ a, ByTouches σ (f a) good') : ByTouches σ (x >>= f) good' :=
  hx.byTouches.bind fun a _ => hf a

theorem byTouches_noteAll {ns : List Note} {f : Unit → Act V β}
    (h : ByTouches σ (f ()) good') : ByTouches σ (change (noteAll ns) >>= f) good' :=
  byTouches_change (fun s => .rest (aloof_noteAll s ns)) h

theorem byTouches_write {n : Note} {f : Unit → Act V β}
    (h : ByTouches σ (f ()) good') : ByTouches σ (write n >>= f) good' :=
  byTouches_noteAll h

theorem byTouches_done (a : Answer) :
    ByTouches σ (pure (.done a) : Act V Progress) Progress.IsUnderWay :=
  byTouches_pure trivial

/-! ## Calls -/

theorem byTouches_send (c : Service.Call) :
    ByTouches σ (send c : Act V Service.Reply) fun _ => True := by
  refine byTouches_noteAll (byTouches_get fun s => ?_)
  split
  · exact byTouches_change (fun _ => .rest (aloof_record _ rfl)) byTouches_throw
  case h_2 out reply server _ =>
    refine byTouches_change (fun t => .rest ?_) (byTouches_pure trivial)
    exact Aloof.trans (t := { t with server })
      (Still.aloof ⟨⟨rfl, rfl, rfl, rfl, rfl⟩, rfl, rfl, rfl⟩) (aloof_record _ rfl)

theorem byTouches_receive {reply : Service.Reply} {now : Reaction → Act V Progress}
    {later : Reaction → Stage}
    (hnow : ∀ r, ByTouches σ (now r) Progress.IsUnderWay)
    (hlater : ∀ r, (later r).isUnderWay = true) :
    ByTouches σ (receive reply now later) Progress.IsUnderWay := by
  unfold receive
  split
  · exact hnow _
  · exact byTouches_pure (hlater _)

theorem byTouches_reached {γ : Type} (result : Except Failure γ) :
    ByTouches σ (reached result : Act V _) fun _ => True := by
  unfold reached
  split
  · exact byTouches_pure trivial
  · exact byTouches_pure trivial
  · exact byTouches_throw

/-! ## Transforms -/

theorem byTouches_conclude (requested : Bool) (o : Option Service.Outcome) :
    ByTouches σ (conclude requested o : Act V Progress) Progress.IsUnderWay := by
  unfold conclude
  split
  · exact byTouches_change (fun s => .output s _) (byTouches_done _)
  · exact byTouches_done _

theorem byTouches_finishTransform (generation : Nat) (requested : Bool) (r : Reaction) :
    ByTouches σ (finishTransform view generation requested r) Progress.IsUnderWay := by
  refine byTouches_noteAll (byTouches_get fun s => ?_)
  refine byTouches_change (fun t => .rest (aloof_hearOutcome t generation _)) ?_
  refine (byTouches_reached _).bind fun o _ => ?_
  dsimp only
  split
  · exact (isQuiet_reportOutcome _ _).byTouches_bind fun _ => byTouches_conclude _ _
  · exact byTouches_write (byTouches_conclude _ _)

theorem byTouches_callTransform (requested : Bool) :
    ByTouches σ (callTransform view requested) Progress.IsUnderWay := by
  refine byTouches_get fun s => byTouches_write ?_
  refine (isQuiet_announceState _).byTouches_bind fun _ => (byTouches_send _).bind fun r _ => ?_
  exact byTouches_receive (fun r => byTouches_finishTransform _ _ r) fun _ => rfl

theorem byTouches_beginTransform (requested : Bool) :
    ByTouches σ (beginTransform view requested) Progress.IsUnderWay :=
  byTouches_change (fun s => .rest (aloof_begin s)) (byTouches_callTransform requested)

theorem byTouches_transform :
    ByTouches σ (transform view) Progress.IsUnderWay := by
  refine byTouches_get fun s => ?_
  split
  · exact byTouches_throw
  · exact byTouches_beginTransform false

theorem byTouches_handleTransform :
    ByTouches σ (handleTransform view) Progress.IsUnderWay := by
  refine byTouches_get fun s => ?_
  split
  · refine byTouches_change (fun _ => .rest (Still.aloof ⟨⟨rfl, rfl, rfl, rfl, rfl⟩, rfl, rfl,
      rfl⟩)) ?_
    refine byTouches_write ?_
    exact (isQuiet_announceNotice _ _).byTouches_bind fun _ => byTouches_done _
  · exact byTouches_beginTransform true

theorem byTouches_requestTransform :
    ByTouches σ (requestTransform view) Progress.IsUnderWay :=
  byTouches_get fun _ => byTouches_write byTouches_handleTransform

theorem byTouches_triggerTransform :
    ByTouches σ (triggerTransform view) Progress.IsUnderWay :=
  byTouches_change (fun _ => .rest (aloof_record _ rfl)) byTouches_requestTransform

/-! ## Validation -/

theorem byTouches_reportVerdict (e : Draft) (v : Service.Verdict) (wasReady : Bool) :
    ByTouches σ (reportVerdict view e v wasReady) Progress.IsUnderWay := by
  refine byTouches_write ?_
  refine (isQuiet_announceState _).byTouches_bind fun _ => byTouches_get fun s => ?_
  dsimp only
  split
  · exact byTouches_write byTouches_triggerTransform
  · exact byTouches_done _

theorem byTouches_finishValidation (e : Draft) (text : String) (r : Reaction) :
    ByTouches σ (finishValidation view e text r) Progress.IsUnderWay := by
  unfold finishValidation
  rcases Service.Client.readVerdict e r with ⟨notes, result⟩
  refine byTouches_noteAll (byTouches_get fun s => ?_)
  refine byTouches_change (fun t => .rest (aloof_hearVerdict t e text result)) ?_
  refine (byTouches_reached _).bind fun verdict _ => ?_
  split
  · exact byTouches_write (byTouches_done _)
  split
  · exact byTouches_reportVerdict _ _ _
  · refine byTouches_write ?_
    exact (isQuiet_announceState _).byTouches_bind fun _ => byTouches_done _

theorem byTouches_finishStray (text : String) (r : Reaction) :
    ByTouches σ (finishStray text r : Act V Progress) Progress.IsUnderWay := by
  unfold finishStray
  rcases Service.Client.readVerdict .spec r with ⟨notes, result⟩
  refine byTouches_noteAll ?_
  have hstray : ByTouches σ (refuseStray text : Act V Progress) Progress.IsUnderWay := by
    refine byTouches_get fun s => ?_
    split
    · refine byTouches_change (fun _ => .rest ?_) (byTouches_done _)
      exact Still.aloof ⟨⟨rfl, rfl, rfl, rfl, rfl⟩, rfl, rfl, rfl⟩
    · exact byTouches_throw
  split
  · exact hstray
  · exact hstray
  · exact byTouches_throw

theorem byTouches_validate (b : Buffer) (text : String) :
    ByTouches σ (validate view b text) Progress.IsUnderWay := by
  unfold validate
  split
  · exact (byTouches_send _).bind fun _ _ =>
      byTouches_receive (fun r => byTouches_finishValidation _ _ r) fun _ => rfl
  · exact (byTouches_send _).bind fun _ _ =>
      byTouches_receive (fun r => byTouches_finishStray _ r) fun _ => rfl

/-! ## Edits -/

theorem byTouches_handleEdit {e : Event} (he : σ.Edits e.buffer e.fromEditor) :
    ByTouches σ (handleEdit view e) Progress.IsUnderWay := by
  unfold handleEdit
  split
  case h_1 d hd =>
    refine byTouches_change (fun s => .edit s _ _ _ (he d hd)) ?_
    exact (isQuiet_announceState _).byTouches_bind fun _ => byTouches_done _
  case h_2 => exact byTouches_write (byTouches_done _)

theorem byTouches_handleArmed (armed : Bool) :
    ByTouches σ (handleArmed view armed) Progress.IsUnderWay := by
  refine byTouches_get fun s => byTouches_change (fun t => .rest (aloof_switch t armed)) ?_
  refine byTouches_write ?_
  split
  · exact byTouches_triggerTransform
  · exact byTouches_done _

/-- Only one handler edits, and it is the one of edits. -/
theorem find?_bus_applyEdit (s : Session V) {type : EventType}
    (h : s.bus.find? type = some .applyEdit) : type = .bufferEdited := by
  unfold Bus.find? bus at h
  cases type with
  | bufferEdited => rfl
  | _ => cases hwatched : s.watched <;> rw [hwatched] at h <;> cases h

theorem byTouches_dispatch {e : Event}
    (he : e.type = .bufferEdited → σ.Edits e.buffer e.fromEditor) :
    ByTouches σ (dispatch view e) Progress.IsUnderWay := by
  refine byTouches_get fun s => ?_
  unfold Bus.dispatch
  split
  case h_1 handler hhandler =>
    refine byTouches_write ?_
    cases handler with
    | applyEdit => exact byTouches_handleEdit (he (find?_bus_applyEdit s hhandler))
    | transform => exact byTouches_handleTransform
    | setArmed => exact byTouches_handleArmed _
    | view => exact (isQuiet_present e).byTouches_bind fun _ => byTouches_done _
  case h_2 => exact byTouches_write (byTouches_done _)

theorem byTouches_edit {b : Buffer} (text : String) (hb : σ.Edits (some b) false) :
    ByTouches σ (edit view b text) Progress.IsUnderWay := byTouches_dispatch fun _ => hb

theorem byTouches_announceFormatted (b : Buffer) :
    ByTouches σ (announceFormatted view b) Progress.IsUnderWay := by
  unfold announceFormatted
  split
  · exact (isQuiet_announceNotice _ _).byTouches_bind fun _ => byTouches_done _
  · exact byTouches_throw

theorem byTouches_format {b : Buffer} (hb : σ.Edits (some b) false) :
    ByTouches σ (format view b) Progress.IsUnderWay := by
  refine byTouches_get fun s => ?_
  dsimp only
  split
  · exact byTouches_done _
  split
  · exact (isQuiet_announceNotice _ _).byTouches_bind fun _ => byTouches_done _
  split
  · exact (byTouches_edit _ hb).bind fun _ _ => byTouches_announceFormatted b
  · exact byTouches_announceFormatted b

theorem byTouches_clear {d : Draft} (hd : σ.edits d false) :
    ByTouches σ (clear view d) Progress.IsUnderWay := by
  have hbuffer : σ.Edits (some d.buffer) false := by
    intro e he
    rw [Option.bind_some, Document.draft?_buffer] at he
    cases he
    exact hd
  exact (byTouches_edit _ hbuffer).bind fun _ _ =>
    (isQuiet_announceNotice _ _).byTouches_bind fun _ => byTouches_done _

/-! ## All stages -/

theorem byTouches_plainly {f : Session V → Session V} (h : ∀ s, Touch σ s (f s)) :
    ByTouches σ (plainly f) Progress.IsUnderWay :=
  byTouches_change h (byTouches_done _)

theorem byTouches_finishOperations (r : Reaction) :
    ByTouches σ (finishOperations r : Act V Progress) Progress.IsUnderWay := by
  unfold finishOperations
  split
  · exact byTouches_done _
  · exact byTouches_throw

theorem byTouches_awaitEdits {otherwise : Progress} (h : otherwise.IsUnderWay) :
    ByTouches σ (awaitEdits otherwise : Act V Progress) Progress.IsUnderWay := by
  refine byTouches_get fun s => ?_
  dsimp only
  split
  · exact byTouches_pure h
  · exact byTouches_pure rfl

theorem byTouches_drain : ByTouches σ (drain : Act V Progress) Progress.IsUnderWay := by
  refine byTouches_get fun s => ?_
  split
  · exact byTouches_pure rfl
  · exact byTouches_pure rfl
  · exact byTouches_awaitEdits trivial

theorem byTouches_settle : ByTouches σ (settle : Act V Progress) Progress.IsUnderWay := by
  refine byTouches_get fun s => ?_
  split
  · exact byTouches_drain
  · exact byTouches_awaitEdits trivial

/-- Starting an action. -/
theorem byTouches_start {a : Action} (ha : a.Within σ) :
    ByTouches σ (start view a) Progress.IsUnderWay := by
  cases a with
  | edit b text => exact byTouches_edit text ha
  | format b => exact byTouches_format ha
  | clear d => exact byTouches_clear ha
  | requestTransform => exact byTouches_requestTransform
  | setArmed armed => exact byTouches_dispatch fun htype => by cases htype
  | validate b text => exact byTouches_validate b text
  | transform => exact byTouches_transform
  | checkDrafts =>
    refine byTouches_get fun s => ?_
    split
    · exact byTouches_throw
    · exact byTouches_done _
  | dispatch e => exact byTouches_dispatch ha
  | listOperations =>
    exact (byTouches_send _).bind fun _ _ =>
      byTouches_receive (fun r => byTouches_finishOperations r) fun _ => rfl
  | treeView => exact byTouches_get fun _ => byTouches_done _
  | settle => exact byTouches_settle
  | enter => exact byTouches_done _
  | close => exact byTouches_plainly fun s => .rest (aloof_close s)
  | attach b name => exact byTouches_change (fun s => .attach s b name ha) (byTouches_done _)
  | type name text =>
    refine byTouches_get fun s => ?_
    split
    · exact byTouches_plainly fun s => .type s name text ha
    · exact byTouches_throw
  | report name => exact byTouches_plainly fun s => .report s name

/-- Going on with a stage. -/
theorem byTouches_goOn {stage : Stage} (h : stage.Within σ) :
    ByTouches σ (goOn view stage) Progress.IsUnderWay := by
  cases stage with
  | start a => exact byTouches_start h
  | verdict e text r => exact byTouches_finishValidation e text r
  | stray text r => exact byTouches_finishStray text r
  | outcome generation requested r => exact byTouches_finishTransform generation requested r
  | names r => exact byTouches_finishOperations r
  | drain => exact byTouches_drain

end Act

/-- Going through a stage and the actions after it. -/
theorem byTouches_follow {rest : List Action} (hrest : ∀ a ∈ rest, a.Within σ) {stage : Stage}
    (hstage : stage.Within σ) (answers : List Answer) :
    Act.ByTouches σ (follow view rest stage answers) (Course.IsUnderWay rest) := by
  induction rest generalizing stage answers with
  | nil =>
    refine (Act.byTouches_goOn hstage).bind fun p hp => ?_
    cases p with
    | done a => exact Act.byTouches_pure trivial
    | paused pause next => exact Act.byTouches_pure ⟨hp, by simp⟩
  | cons action rest ih =>
    refine (Act.byTouches_goOn hstage).bind fun p hp => ?_
    cases p with
    | done a =>
      obtain ⟨haction, hrest⟩ := List.forall_mem_cons.mp hrest
      have hnext : (Stage.start action).Within σ := haction
      refine (ih hrest hnext _).mono fun course hcourse => ?_
      cases course with
      | done => trivial
      | paused pause next =>
        exact ⟨hcourse.1, fun a ha => List.mem_cons_of_mem action (hcourse.2 a ha)⟩
    | paused pause next => exact Act.byTouches_pure ⟨hp, fun _ => id⟩

/-- So whoever has to wait goes on with nothing else, either. -/
theorem Plan.Within.of_isUnderWay {p next : Plan} {pause : Pause} (h : p.Within σ)
    (hnext : Course.IsUnderWay p.rest (.paused pause next)) : next.Within σ :=
  ⟨Stage.within_of_isUnderWay hnext.1, fun a ha => h.rest a (hnext.2 a ha)⟩

end Workbench.Session
