import Workbench.Proofs.Service.Alike
import Workbench.Proofs.Turn.Alike
import Workbench.Session.Run

/-!
# Sessions that are alike

Two sessions whose services gave answers that are alike: they hold the same documents, except that
the status number in a reason may differ, and everything in them stands alike. Whatever changes a
session, done to both, leaves them alike.
-/
namespace Workbench

open Document (Buffer Draft DraftState Status Store)
open Service (Outcome Reaction Verdict)
open Turn (ActivitiesAlike Activity Board Phase)

variable {p : Prop} {V : Type}

/-! ## Documents -/

/-- The same status, with details that are alike. -/
structure Document.Status.Alike (p : Prop) (a b : Status) : Prop where
  label : b.label = a.label
  level : b.level = a.level
  detail : Option.Rel (TextAlike p) a.detail b.detail

theorem optionRel_textAlike_refl (t : Option String) : Option.Rel (TextAlike p) t t := by
  cases t with
  | none => exact .none
  | some t => exact .some (.refl t)

theorem eq_of_optionRel_textAlike {x y : Option String} (h : Option.Rel (TextAlike p) x y)
    (hp : ¬p) : y = x := by
  cases h with
  | none => rfl
  | some ht => rw [ht.eq hp]

theorem Document.Status.Alike.refl (a : Status) : a.Alike p a :=
  ⟨rfl, rfl, optionRel_textAlike_refl _⟩

theorem Document.Status.Alike.eq {a b : Status} (h : a.Alike p b) (hp : ¬p) : b = a := by
  cases a
  cases b
  rw [Status.mk.injEq]
  exact ⟨h.label, h.level, eq_of_optionRel_textAlike h.detail hp⟩

structure Document.DraftState.Alike (p : Prop) (a b : DraftState) : Prop where
  text : b.text = a.text
  snapshot : b.snapshot = a.snapshot
  status : a.status.Alike p b.status

theorem Document.DraftState.Alike.eq {a b : DraftState} (h : a.Alike p b) (hp : ¬p) : b = a := by
  cases a
  cases b
  rw [DraftState.mk.injEq]
  exact ⟨h.text, h.snapshot, h.status.eq hp⟩

/-- The same documents, with statuses that are alike. -/
structure Document.Store.Alike (p : Prop) (a b : Store) : Prop where
  input : a.input.Alike p b.input
  spec : a.spec.Alike p b.spec
  outputText : b.outputText = a.outputText
  outputStatus : a.outputStatus.Alike p b.outputStatus
  armed : b.armed = a.armed
  executionTime : b.executionTime = a.executionTime
  rating : b.rating = a.rating

theorem Document.Store.Alike.refl (a : Store) : a.Alike p a :=
  ⟨⟨rfl, rfl, .refl _⟩, ⟨rfl, rfl, .refl _⟩, rfl, .refl _, rfl, rfl, rfl⟩

namespace Document.Store.Alike

variable {a b : Store} (h : a.Alike p b)

include h

theorem eq (hp : ¬p) : b = a := by
  cases a
  cases b
  rw [Store.mk.injEq]
  exact ⟨h.input.eq hp, h.spec.eq hp, h.outputText, h.outputStatus.eq hp, h.armed, h.executionTime,
    h.rating⟩

theorem draft (d : Draft) : (a.draft d).Alike p (b.draft d) := by
  cases d
  · exact h.input
  · exact h.spec

theorem text (c : Buffer) : b.text c = a.text c := by
  cases c
  · exact h.input.text
  · exact h.spec.text
  · exact h.outputText

theorem bothValid : b.bothValid = a.bothValid := by
  unfold Store.bothValid Store.hasSnapshot
  rw [(h.draft .input).snapshot, (h.draft .spec).snapshot]

theorem setDraft (d : Draft) {x y : DraftState} (hxy : x.Alike p y) :
    (a.setDraft d x).Alike p (b.setDraft d y) := by
  cases d
  · exact { h with input := hxy }
  · exact { h with spec := hxy }

theorem setText (c : Buffer) (text : String) : (a.setText c text).Alike p (b.setText c text) := by
  unfold Store.setText
  split
  · exact h.setDraft _ { h.draft _ with text := rfl, snapshot := rfl }
  · exact { h with outputText := rfl }

theorem setSnapshot (d : Draft) (text : Option String) :
    (a.setSnapshot d text).Alike p (b.setSnapshot d text) :=
  h.setDraft d { h.draft d with snapshot := rfl }

theorem setStatus (c : Buffer) {x y : Status} (hxy : x.Alike p y) :
    (a.setStatus c x).Alike p (b.setStatus c y) := by
  unfold Store.setStatus
  split
  · exact h.setDraft _ { h.draft _ with status := hxy }
  · exact { h with outputStatus := hxy }

end Document.Store.Alike

namespace Session

/-! ## What has happened and what is to be done -/

/-- The same event, with messages that are alike. -/
structure Event.Alike (p : Prop) (e f : Event) : Prop where
  same : f = { e with message := f.message }
  message : Option.Rel (TextAlike p) e.message f.message

theorem Event.Alike.refl (e : Event) : e.Alike p e := ⟨rfl, optionRel_textAlike_refl _⟩

theorem Event.Alike.eq {e f : Event} (h : e.Alike p f) (hp : ¬p) : f = e := by
  obtain ⟨hsame, hmessage⟩ := h
  rw [hsame, eq_of_optionRel_textAlike hmessage hp]

/-- The same has happened, up to answers that are alike. -/
inductive Happening.Alike (p : Prop) : Happening → Happening → Prop
  | same (h) : Happening.Alike p h h
  | sent (s : Sent) {reply reply'} (h : reply.Alike p s.outgoing.request.endpoint reply') :
      Happening.Alike p (.sent s reply) (.sent s reply')
  | judged (d text) {r r'} (h : ResultAlike p r r') :
      Happening.Alike p (.judged d text r) (.judged d text r')
  | answered (generation) {r r'} (h : ResultAlike p r r') :
      Happening.Alike p (.answered generation r) (.answered generation r')

/-- Stages that take up answers that are alike. -/
inductive Stage.Alike (p : Prop) : Stage → Stage → Prop
  | same (s) : Stage.Alike p s s
  | verdict (d text) {r r'} (h : r.Alike p r') : Stage.Alike p (.verdict d text r) (.verdict d text r')
  | stray (text) {r r'} (h : r.Alike p r') : Stage.Alike p (.stray text r) (.stray text r')
  | outcome (generation requested) {r r'} (h : r.Alike p r') :
      Stage.Alike p (.outcome generation requested r) (.outcome generation requested r')

structure Plan.Alike (p : Prop) (x y : Plan) : Prop where
  stage : x.stage.Alike p y.stage
  rest : y.rest = x.rest
  answers : y.answers = x.answers

theorem Plan.Alike.refl (x : Plan) : x.Alike p x := ⟨.same _, rfl, rfl⟩

/-- What an activity is to apply to a draft does not come from an answer. -/
theorem Stage.Alike.editorText? {x y : Stage} (h : x.Alike p y) (d : Draft) :
    y.editorText? d = x.editorText? d := by
  cases h <;> rfl

/-- Told of the same, views stay related, and break alike. -/
def View.Respects (p : Prop) (R : V → V → Prop) (view : View V) : Prop :=
  ∀ st st' e e' v v', st.Alike p st' → e.Alike p e' → R v v' →
    R (view st e v).1 (view st' e' v').1 ∧ (view st' e' v').2 = (view st e v).2

/-- Where what is alike is equal, this is so of every view. -/
theorem View.respects_eq (view : View V) (hp : ¬p) : view.Respects p Eq := by
  intro st st' e e' v v' hst he hv
  cases hst.eq hp
  cases he.eq hp
  cases hv
  exact ⟨rfl, rfl⟩

end Session

open Session

/-- All is the same in two sessions, up to answers that are alike. -/
structure Session.Alike (p : Prop) (R : V → V → Prop) (s t : Session V) : Prop where
  settings : t.settings = s.settings
  store : s.store.Alike p t.store
  scheduler : t.scheduler = s.scheduler
  board : s.board.Alike (Plan.Alike p) t.board
  client : t.client = s.client
  ownsClient : t.ownsClient = s.ownsClient
  server : s.server.Alike p t.server
  generation : t.generation = s.generation
  lastWarning : t.lastWarning = s.lastWarning
  editors : t.editors = s.editors
  attached : t.attached = s.attached
  known : t.known = s.known
  watched : t.watched = s.watched
  view : R s.view t.view
  journal : List.Forall₂ (NoteAlike p) s.journal t.journal
  history : List.Forall₂ (Happening.Alike p) s.history t.history
  finished : t.finished = s.finished

namespace Session

/-! ## Documents after answers that are alike -/

theorem errorAlike (label : String) {t t' : String} (h : TextAlike p t t') :
    (Status.error label (some t)).Alike p (.error label (some t')) :=
  ⟨rfl, rfl, .some h⟩

theorem heard_alike {a b : Store} (h : a.Alike p b) (d : Draft) (text : String)
    {r r' : Except Failure Verdict} (hr : ResultAlike p r r') :
    (heard d text r a).Alike p (heard d text r' b) := by
  unfold heard
  rw [(h.draft d).text]
  split
  · cases hr with
    | same =>
      split
      case h_1 v =>
        unfold judged
        split <;> exact (h.setSnapshot d _).setStatus _ (.refl _)
      case h_2 endpoint reason => exact (h.setSnapshot d _).setStatus _ (.refl _)
      case h_3 => exact h
    | reason endpoint ht =>
      refine (h.setSnapshot d _).setStatus _ (errorAlike _ ?_)
      cases d <;> exact ht.append _
  · exact h

theorem transformed_alike {a b : Store} (h : a.Alike p b) {r r' : Except Failure Outcome}
    (hr : ResultAlike p r r') : (transformed r a).Alike p (transformed r' b) := by
  cases hr with
  | same =>
    unfold transformed
    split
    · split
      · exact { h with outputText := rfl, executionTime := rfl, rating := rfl, outputStatus := .refl _ }
      · exact { h with outputText := rfl, outputStatus := .refl _ }
    · exact { h with outputText := rfl, outputStatus := .refl _ }
    · exact h
  | reason endpoint ht =>
    exact { h with outputText := rfl, outputStatus := errorAlike _ (ht.append _) }

theorem missing?_eq {a b : Store} (h : a.Alike p b) : missing? b = missing? a := by
  unfold missing?
  rw [h.input.text, h.spec.text]

namespace Alike

variable {R : V → V → Prop} {s t : Session V} (h : s.Alike p R t)

include h

/-! ## What is the same in both -/

theorem request : t.request = s.request := by
  unfold Session.request
  rw [h.store.input.text, h.store.spec.text]

theorem bus : t.bus = s.bus := by
  unfold Session.bus
  rw [h.watched]

theorem now : t.board.now = s.board.now := congrArg Turn.Agenda.now h.board.agenda

theorem treeView : t.treeView = s.treeView := by
  unfold Session.treeView
  rw [h.store.outputText, h.settings]

theorem knownText (d : Draft) : t.knownText d = s.knownText d := by
  unfold Session.knownText
  rw [h.known, h.store.text]

theorem pendingEdits : ActivitiesAlike (Plan.Alike p) s.pendingEdits t.pendingEdits :=
  h.board.withRole _

theorem validations : ActivitiesAlike (Plan.Alike p) s.validations t.validations :=
  h.board.withRole _

theorem backlog (d : Draft) : t.backlog d = s.backlog d := by
  have hedits := h.pendingEdits
  unfold Session.backlog
  generalize s.pendingEdits = as at hedits
  generalize t.pendingEdits = bs at hedits
  induction hedits with
  | nil => rfl
  | @cons a b as bs hab _ ih =>
    have hphase := hab.phase
    rw [List.filterMap_cons, List.filterMap_cons, ih]
    generalize a.phase = q at hphase
    generalize b.phase = r at hphase
    cases hphase with
    | ready hxy =>
      dsimp only
      rw [hxy.stage.editorText? d]
    | _ => rfl

/-- What is sent is the same. -/
theorem sent : t.sent = s.sent := by
  have hhistory := h.history
  unfold Session.sent
  generalize s.history = xs at hhistory
  generalize t.history = ys at hhistory
  induction hhistory with
  | nil => rfl
  | cons hxy _ ih =>
    rw [List.filterMap_cons, List.filterMap_cons, ih]
    cases hxy <;> rfl

/-! ## What changes a session -/

theorem noteAll {ns ns' : List Note} (hns : List.Forall₂ (NoteAlike p) ns ns') :
    (s.noteAll ns).Alike p R (t.noteAll ns') :=
  { h with journal := List.rel_append h.journal hns }

theorem note (n : Note) : (s.note n).Alike p R (t.note n) := h.noteAll (.cons (.same n) .nil)

theorem record {x y : Happening} (hxy : x.Alike p y) : (s.record x).Alike p R (t.record y) :=
  { h with history := List.rel_append h.history (.cons hxy .nil) }

theorem setStore {f g : Store → Store} (hfg : (f s.store).Alike p (g t.store)) :
    (s.setStore f).Alike p R (t.setStore g) :=
  { h with store := hfg }

theorem setBoard {b c : Board Role Plan Draft} (hbc : b.Alike (Plan.Alike p) c) :
    Session.Alike p R { s with board := b } { t with board := c } :=
  { h with board := hbc }

theorem spawn (role : Role) (plan : Plan) :
    Session.Alike p R { s with board := s.board.spawn role plan }
      { t with board := t.board.spawn role plan } :=
  h.setBoard (h.board.spawn role (.refl plan))

theorem setEditors {es es' : Editors} (hes : es' = es) :
    Session.Alike p R { s with editors := es } { t with editors := es' } :=
  { h with editors := hes }

theorem modify (name : String) (f : Editor → Editor) :
    Session.Alike p R { s with editors := s.editors.modify name f }
      { t with editors := t.editors.modify name f } :=
  h.setEditors (congrArg (·.modify name f) h.editors)

theorem setKnown (d : Draft) (text : String) :
    (s.setKnown d text).Alike p R (t.setKnown d text) :=
  { h with known := by rw [Session.setKnown, Session.setKnown, h.known] }

theorem syncEditor (b : Buffer) (text : String) :
    (s.syncEditor b text).Alike p R (t.syncEditor b text) := by
  unfold Session.syncEditor
  rw [h.attached, h.editors]
  split
  · exact h
  split
  · exact h
  split
  · exact h
  dsimp only
  split
  · exact { h with editors := rfl, attached := rfl, board := h.board.spawn _ (.refl _) }
  · exact { h with editors := rfl, attached := rfl }

theorem hear (text : String) (d : Draft) : (s.hear text d).Alike p R (t.hear text d) := by
  unfold Session.hear
  rw [h.knownText]
  split
  · exact h
  · exact (h.setKnown d text).spawn _ _

theorem report (name : String) : (s.report name).Alike p R (t.report name) := by
  unfold Session.report
  rw [h.editors]
  split
  case h_1 e _ =>
    have hfold (ls : List Draft) {s t : Session V} (h : s.Alike p R t) :
        (ls.foldl (Session.hear e.value) s).Alike p R (ls.foldl (Session.hear e.value) t) := by
      induction ls generalizing s t with
      | nil => exact h
      | cons l ls ih => exact ih (h.hear e.value l)
    exact hfold e.listeners { h with editors := rfl }
  case h_2 => exact h

theorem typeInto (name text : String) :
    (s.typeInto name text).Alike p R (t.typeInto name text) := (h.modify name _).report name

theorem attach (b : Buffer) (name : String) : (s.attach b name).Alike p R (t.attach b name) := by
  have hattached : Session.Alike p R
      { s with attached := fun c => if c = b then some name else s.attached c }
      { t with attached := fun c => if c = b then some name else t.attached c } :=
    { h with attached := by rw [h.attached] }
  unfold Session.attach
  dsimp only
  split
  · rw [h.store.outputText]
    exact (hattached.modify name _).syncEditor b _
  case h_2 d _ =>
    have hlistened := (hattached.modify name
      fun e => { e with listeners := e.listeners ++ [d] }).setKnown d (s.store.text b)
    rw [h.store.text b]
    dsimp only at hlistened
    generalize Session.setKnown d (s.store.text b) _ = u at hlistened ⊢
    generalize Session.setKnown d (s.store.text b) _ = v at hlistened ⊢
    rw [hlistened.editors]
    split
    · exact hlistened.hear _ d
    · exact hlistened

theorem overwrite (d : Draft) (text : String) :
    (s.overwrite d text).Alike p R (t.overwrite d text) := by
  unfold Session.overwrite
  rw [h.backlog]
  dsimp only
  split
  · exact (h.setKnown d text).syncEditor _ text
  · exact ((h.record (.same _)).setKnown d text).syncEditor _ text

theorem setTimers {sch sch' : Coalescing.Scheduler Draft String} {b c : Board Role Plan Draft}
    (hsch : sch' = sch) (hbc : b.Alike (Plan.Alike p) c) :
    Session.Alike p R { s with scheduler := sch, board := b }
      { t with scheduler := sch', board := c } :=
  { h with scheduler := hsch, board := hbc }

theorem schedule (d : Draft) (text : String) :
    Session.Alike p R
      { s with scheduler := (s.scheduler.schedule d text s.board).1
               board := (s.scheduler.schedule d text s.board).2 }
      { t with scheduler := (t.scheduler.schedule d text t.board).1
               board := (t.scheduler.schedule d text t.board).2 } := by
  rw [h.scheduler]
  exact h.setTimers rfl ((h.board.disarm d).arm _ d)

theorem expectVerdict (d : Draft) (text : String) :
    (s.expectVerdict d text).Alike p R (t.expectVerdict d text) := by
  have hdropped : (s.setStore (·.setSnapshot d none)).Alike p R (t.setStore (·.setSnapshot d none)) :=
    h.setStore (h.store.setSnapshot d none)
  unfold Session.expectVerdict
  dsimp only
  cases Text.isBlank text with
  | true =>
    have hcancelled := hdropped.setTimers (congrArg (·.drop d) h.scheduler) (h.board.disarm d)
    have hcleared := hcancelled.store.setStatus d.buffer (.refl (.ofBlank d))
    exact hcancelled.setStore (f := (·.setStatus d.buffer (.ofBlank d)))
      (g := (·.setStatus d.buffer (.ofBlank d))) hcleared
  | false =>
    have hwaiting := hdropped.setStore (f := (·.setStatus d.buffer .validating))
      (g := (·.setStatus d.buffer .validating)) (hdropped.store.setStatus d.buffer (.refl _))
    rw [if_neg Bool.false_ne_true, if_neg Bool.false_ne_true]
    generalize Session.setStore _ (Session.setStore _ s) = u at hwaiting ⊢
    generalize Session.setStore _ (Session.setStore _ t) = v at hwaiting ⊢
    rw [hwaiting.scheduler]
    split
    · exact (hwaiting.note (Coalescing.Scheduler.replacedNote d.buffer.name)).schedule d text
    · exact hwaiting.schedule d text

theorem putText (d : Draft) (text : String) : (s.putText d text).Alike p R (t.putText d text) := by
  unfold Session.putText
  rw [h.now]
  exact ((h.record (.same _)).setStore (h.store.setText _ text)).expectVerdict d text

theorem applyEdit (d : Draft) (text : String) (fromEditor : Bool) :
    (s.applyEdit d text fromEditor).Alike p R (t.applyEdit d text fromEditor) := by
  unfold Session.applyEdit
  cases fromEditor
  · exact (h.overwrite d text).putText d text
  · exact h.putText d text

theorem switch (armed : Bool) : (s.switch armed).Alike p R (t.switch armed) :=
  (h.record (.same _)).setStore { h.store with armed := rfl }

theorem begin : s.begin.Alike p R t.begin := by
  unfold Session.begin
  rw [h.generation, h.request]
  have hnumbered : Session.Alike p R { s with generation := s.generation + 1 }
      { t with generation := s.generation + 1 } := { h with generation := rfl }
  exact (hnumbered.record (.same _)).setStore { h.store with outputStatus := .refl _ }

theorem hearVerdict (d : Draft) (text : String) {r r' : Except Failure Verdict}
    (hr : ResultAlike p r r') : (s.hearVerdict d text r).Alike p R (t.hearVerdict d text r') :=
  (h.record (.judged d text hr)).setStore (heard_alike h.store d text hr)

theorem hearOutcome (generation : Nat) {r r' : Except Failure Outcome}
    (hr : ResultAlike p r r') :
    (s.hearOutcome generation r).Alike p R (t.hearOutcome generation r') := by
  unfold Session.hearOutcome
  rw [h.generation]
  refine (h.record (.answered generation hr)).setStore ?_
  split
  · exact transformed_alike h.store hr
  · exact h.store

theorem close : s.close.Alike p R t.close := by
  have hrecorded : Session.Alike p R (s.record (.closed s.scheduler.pending))
      (t.record (.closed t.scheduler.pending)) := by
    rw [h.scheduler]
    exact h.record (.same _)
  have hboard : (s.scheduler.cancelAll s.board).2.Alike (Plan.Alike p)
      (t.scheduler.cancelAll t.board).2 := by
    rw [h.scheduler]
    exact h.board.disarmAll _
  have hclosed := hrecorded.setTimers (congrArg (fun sch => { sch with pending := [] }) h.scheduler)
    hboard
  refine { hclosed with client := ?_ }
  exact congrArg₂ (fun owns (c : Service.Client) => if owns = true then c.close else c) h.ownsClient
    h.client

end Alike

end Session

end Workbench
