import Workbench.Proofs.Session.Alike
import Workbench.Proofs.Session.Leads

/-!
# The same work on sessions that are alike

Every stretch of work of a session, done on two sessions that are alike, leaves them alike and gives
the same result. Only where an answer is taken up do the two go by different data; there the stretches
are compared one statement after the other.
-/
namespace Workbench.Session

open Document (Buffer Draft Store)
open Service (Outcome Reaction Verdict)
open Turn (ActivitiesAlike)

variable {p : Prop} {V : Type} {R : V → V → Prop} {α β : Type}

/-- The same failure, or results that are related. -/
inductive Result (good : α → α → Prop) : Except Failure α → Except Failure α → Prop
  | ok {a b} (h : good a b) : Result good (.ok a) (.ok b)
  | error (f) : Result good (.error f) (.error f)

inductive Pause.Alike (p : Prop) : Pause → Pause → Prop
  | time (duration) : Pause.Alike p (.time duration) (.time duration)
  | activities {as bs} (h : ActivitiesAlike (Plan.Alike p) as bs) :
      Pause.Alike p (.activities as) (.activities bs)

inductive Progress.Alike (p : Prop) : Progress → Progress → Prop
  | done (answer) : Progress.Alike p (.done answer) (.done answer)
  | paused {x y next next'} (h : x.Alike p y) (hnext : next.Alike p next') :
      Progress.Alike p (.paused x next) (.paused y next')

/-- The same result of a call, or reasons that are alike. -/
inductive ReachedAlike (p : Prop) : Except String α → Except String α → Prop
  | ok (a) : ReachedAlike p (.ok a) (.ok a)
  | error {r r'} (h : TextAlike p r r') : ReachedAlike p (.error r) (.error r')

namespace Act

/-- Two stretches of work, each done on its session, leave them alike and come to the same. -/
structure Agree (p : Prop) (R : V → V → Prop) (x y : Act V α) (s t : Session V)
    (good : α → α → Prop) : Prop where
  result : Result good (x.run s).1 (y.run t).1
  alike : (x.run s).2.Alike p R (y.run t).2

variable {s t : Session V} {good : β → β → Prop}

/-! ## Putting stretches of work together -/

theorem agree_pure (h : s.Alike p R t) {a b : β} (hab : good a b) :
    Agree p R (pure a) (pure b) s t good := ⟨.ok hab, h⟩

theorem agree_throw (h : s.Alike p R t) (f : Failure) :
    Agree p R (throw f) (throw f) s t good := ⟨.error f, h⟩

theorem agree_bind {mid : α → α → Prop} {x y : Act V α} {f g : α → Act V β}
    (hxy : Agree p R x y s t mid)
    (hfg : ∀ a b s t, s.Alike p R t → mid a b → Agree p R (f a) (g b) s t good) :
    Agree p R (x >>= f) (y >>= g) s t good := by
  obtain ⟨hresult, halike⟩ := hxy
  rcases hx : x.run s with ⟨_, s'⟩
  rcases hy : y.run t with ⟨_, t'⟩
  rw [hx, hy] at hresult halike
  cases hresult with
  | error f =>
    constructor <;> rw [run_bind, run_bind, hx, hy]
    · exact .error f
    · exact halike
  | ok hab =>
    have hrest := hfg _ _ s' t' halike hab
    constructor <;> rw [run_bind, run_bind, hx, hy]
    · exact hrest.result
    · exact hrest.alike

theorem agree_get {f g : Session V → Act V β} (h : Agree p R (f s) (g t) s t good) :
    Agree p R (get >>= f) (get >>= g) s t good := ⟨h.result, h.alike⟩

theorem agree_change {f g : Session V → Session V} {x y : Unit → Act V β}
    (h : Agree p R (x ()) (y ()) (f s) (g t) good) :
    Agree p R (change f >>= x) (change g >>= y) s t good := ⟨h.result, h.alike⟩

/-- What ends in a change ends like what does nothing more after it. -/
theorem agree_last_change {f g : Session V → Session V} (h : (f s).Alike p R (g t)) :
    Agree p R (change f) (change g) s t Eq := ⟨.ok rfl, h⟩

theorem agree_write (h : s.Alike p R t) {n n' : Note} (hn : NoteAlike p n n') :
    Agree p R (write n) (write n') s t Eq :=
  agree_last_change (h.noteAll (.cons hn .nil))

/-! ## Telling of something -/

theorem agree_dispatch (h : s.Alike p R t) (b : Bus Handler) {e e' : Event} (he : e.Alike p e')
    {run run' : Handler → Act V β} {dropped : β} (hdropped : good dropped dropped)
    (hrun : ∀ r s t, s.Alike p R t → Agree p R (run r) (run' r) s t good) :
    Agree p R (b.dispatch e write run dropped) (b.dispatch e' write run' dropped) s t good := by
  have hnotes : Bus.dispatchNote e' = Bus.dispatchNote e ∧ Bus.dropNote e' = Bus.dropNote e := by
    rw [he.same]
    exact ⟨rfl, rfl⟩
  have htype : e'.type = e.type := by rw [he.same]
  unfold Bus.dispatch
  rw [hnotes.1, hnotes.2, htype]
  split
  · exact agree_bind (agree_write h (.same _)) fun _ _ s t h _ => hrun _ s t h
  · exact agree_bind (agree_write h (.same _)) fun _ _ _ _ h _ => agree_pure h hdropped

variable {view : View V}

theorem agree_present (hview : view.Respects p R) (h : s.Alike p R t) {e e' : Event}
    (he : e.Alike p e') : Agree p R (present view e) (present view e') s t Eq := by
  obtain ⟨hafter, hfailure⟩ := hview s.store t.store e e' s.view t.view h.store he h.view
  constructor <;> rw [run_present, run_present]
  · rw [hfailure]
    cases (view s.store e s.view).2 with
    | none => exact .ok rfl
    | some f => exact .error f
  · exact { h with view := hafter }

theorem agree_announce (hview : view.Respects p R) (h : s.Alike p R t) {e e' : Event}
    (he : e.Alike p e') : Agree p R (announce view e) (announce view e') s t Eq := by
  unfold announce
  refine agree_get ?_
  rw [h.bus]
  exact agree_dispatch h _ he rfl fun _ _ _ h => agree_present hview h he

theorem agree_announceState (hview : view.Respects p R) (h : s.Alike p R t) (b : Buffer) :
    Agree p R (announceState view b) (announceState view b) s t Eq :=
  agree_announce hview h (.refl _)

theorem agree_announceNotice (hview : view.Respects p R) (h : s.Alike p R t) {m m' : String}
    (hm : TextAlike p m m') (level : NoticeLevel) :
    Agree p R (announceNotice view m level) (announceNotice view m' level) s t Eq :=
  agree_announce hview h ⟨rfl, .some hm⟩

/-! ## Calls -/

/-- The same request goes out, and what comes back is alike. -/
theorem agree_send (h : s.Alike p R t) (c : Service.Call) :
    Agree p R (send c) (send c) s t (Service.Reply.Alike p c.endpoint) := by
  have hnoted := h.noteAll (forall₂_noteAlike_refl c.notes)
  obtain ⟨f, hs, ht⟩ | ⟨out, reply, reply', next, next', hs, ht, hreply, hnext⟩ :=
    s.client.send_alike h.server c
  · rw [← h.client] at ht
    constructor <;> rw [run_send_of_error hs, run_send_of_error ht]
    · exact .error f
    · exact hnoted.record (.same _)
  · have he := Service.Client.endpoint_of_send hs
    rw [← h.client] at ht
    constructor <;> rw [run_send hs, run_send ht]
    · exact .ok (he ▸ hreply)
    · have hserved : Session.Alike p R { s.noteAll c.notes with server := next }
          { t.noteAll c.notes with server := next' } := { hnoted with server := hnext }
      rw [h.now]
      exact hserved.record (.sent ⟨s.board.now, out⟩ hreply)

/-- A reply is taken up in both sessions at once, or in both at a later stage. -/
theorem agree_receive (h : s.Alike p R t) {e : Service.Endpoint} {x y : Service.Reply}
    (hxy : x.Alike p e y) {now : Reaction → Act V Progress} {later : Reaction → Stage}
    (hnow : ∀ r r', r.Alike p r' → (e = .operations → r' = r) →
      Agree p R (now r) (now r') s t (Progress.Alike p))
    (hlater : ∀ r r', r.Alike p r' → (e = .operations → r' = r) → (later r).Alike p (later r')) :
    Agree p R (receive x now later) (receive y now later) s t (Progress.Alike p) := by
  unfold receive
  rw [hxy.delay]
  split
  · exact hnow _ _ hxy.reaction hxy.operations
  · exact agree_pure h (.paused (.time _) (hlater _ _ hxy.reaction hxy.operations))

/-- The reasons for which the service was not reached are alike. -/
theorem agree_reached (h : s.Alike p R t) {r r' : Except Failure α} (hr : ResultAlike p r r') :
    Agree p R (reached r) (reached r') s t (ReachedAlike p) := by
  cases hr with
  | same =>
    unfold reached
    split
    · exact agree_pure h (.ok _)
    · exact agree_pure h (.error (.refl _))
    · exact agree_throw h _
  | reason endpoint ht => exact agree_pure h (.error ht)

/-! ## Transforms -/

theorem agree_reportOutcome (hview : view.Respects p R) (h : s.Alike p R t) (generation : Nat)
    {o o' : Except String Outcome} (ho : ReachedAlike p o o') :
    Agree p R (reportOutcome view generation o) (reportOutcome view generation o') s t Eq := by
  cases ho with
  | ok o =>
    unfold reportOutcome
    dsimp only
    split
    all_goals
      refine agree_bind (agree_write h (.same _)) fun _ _ s t h _ => ?_
      refine agree_bind (agree_announceState hview h _) fun _ _ s t h _ => ?_
      exact agree_announceNotice hview h (.refl _) _
  | @error reason reason' hreason =>
    refine agree_bind (agree_write h (.error .warning _ [("generation", _)] hreason))
      fun _ _ s t h _ => ?_
    refine agree_bind (agree_announceState hview h _) fun _ _ s t h _ => ?_
    exact agree_announceNotice hview h (hreason.append _) _

theorem agree_conclude (h : s.Alike p R t) (requested : Bool) (o : Option Outcome) :
    Agree p R (conclude requested o) (conclude requested o) s t (Progress.Alike p) := by
  cases requested
  · exact agree_pure h (.done _)
  · refine agree_change (agree_pure ?_ (.done _))
    rw [h.store.outputText]
    exact h.syncEditor _ _

theorem agree_finishTransform (hview : view.Respects p R) (h : s.Alike p R t) (generation : Nat)
    (requested : Bool) {r r' : Reaction} (hr : r.Alike p r') :
    Agree p R (finishTransform view generation requested r)
      (finishTransform view generation requested r') s t (Progress.Alike p) := by
  obtain ⟨hnotes, hresult⟩ := Service.Client.readOutcome_alike hr
  unfold finishTransform
  dsimp only
  generalize Service.Client.readOutcome r = x at hnotes hresult
  generalize Service.Client.readOutcome r' = y at hnotes hresult
  have hnoted := h.noteAll hnotes
  refine agree_change (agree_get ?_)
  rw [hnoted.generation]
  refine agree_change ?_
  refine agree_bind (agree_reached (hnoted.hearOutcome generation hresult) hresult)
    fun o o' s t h ho => ?_
  have honly : o'.toOption = o.toOption := by cases ho <;> rfl
  rw [honly]
  split
  · exact agree_bind (agree_reportOutcome hview h generation ho) fun _ _ _ _ h _ =>
      agree_conclude h requested _
  · exact agree_bind (agree_write h (.same _)) fun _ _ _ _ h _ => agree_conclude h requested _

theorem agree_callTransform (hview : view.Respects p R) (h : s.Alike p R t) (requested : Bool) :
    Agree p R (callTransform view requested) (callTransform view requested) s t
      (Progress.Alike p) := by
  unfold callTransform
  refine agree_get ?_
  rw [h.generation, h.request]
  refine agree_bind (agree_write h (.same _)) fun _ _ _ _ h _ => ?_
  refine agree_bind (agree_announceState hview h _) fun _ _ _ _ h _ => ?_
  refine agree_bind (agree_send h _) fun _ _ _ _ h hreply => ?_
  exact agree_receive h hreply (fun _ _ hr _ => agree_finishTransform hview h _ _ hr)
    fun _ _ hr _ => .outcome _ _ hr

theorem agree_beginTransform (hview : view.Respects p R) (h : s.Alike p R t) (requested : Bool) :
    Agree p R (beginTransform view requested) (beginTransform view requested) s t
      (Progress.Alike p) :=
  agree_change (agree_callTransform hview h.begin requested)

theorem agree_transform (hview : view.Respects p R) (h : s.Alike p R t) :
    Agree p R (transform view) (transform view) s t (Progress.Alike p) := by
  unfold transform
  refine agree_get ?_
  rw [missing?_eq h.store]
  split
  · exact agree_throw h _
  · exact agree_beginTransform hview h false

theorem agree_handleTransform (hview : view.Respects p R) (h : s.Alike p R t) :
    Agree p R (handleTransform view) (handleTransform view) s t (Progress.Alike p) := by
  unfold handleTransform
  refine agree_get ?_
  rw [missing?_eq h.store]
  split
  case h_1 reason _ =>
    have hwarned : Session.Alike p R { s with lastWarning := some reason }
        { t with lastWarning := some reason } := { h with lastWarning := rfl }
    refine agree_change (agree_bind (agree_write hwarned (.same _)) fun _ _ _ _ h _ => ?_)
    exact agree_bind (agree_announceNotice hview h (.refl _) _) fun _ _ _ _ h _ =>
      agree_pure h (.done _)
  case h_2 => exact agree_beginTransform hview h true

theorem agree_requestTransform (hview : view.Respects p R) (h : s.Alike p R t) :
    Agree p R (requestTransform view) (requestTransform view) s t (Progress.Alike p) := by
  unfold requestTransform
  refine agree_get ?_
  rw [h.bus]
  exact agree_dispatch h _ (.refl _) (.done _) fun _ _ _ h => agree_handleTransform hview h

theorem agree_triggerTransform (hview : view.Respects p R) (h : s.Alike p R t) :
    Agree p R (triggerTransform view) (triggerTransform view) s t (Progress.Alike p) :=
  agree_change (agree_requestTransform hview (h.record (.same _)))

/-! ## Validation -/

theorem agree_reportVerdict (hview : view.Respects p R) (h : s.Alike p R t) (d : Draft)
    (v : Verdict) (wasReady : Bool) :
    Agree p R (reportVerdict view d v wasReady) (reportVerdict view d v wasReady) s t
      (Progress.Alike p) := by
  unfold reportVerdict
  refine agree_bind (agree_write h (.same _)) fun _ _ _ _ h _ => ?_
  refine agree_bind (agree_announceState hview h _) fun _ _ _ _ h _ => agree_get ?_
  dsimp only
  rw [h.store.armed, h.store.bothValid]
  split
  · exact agree_bind (agree_write h (.same _)) fun _ _ _ _ h _ => agree_triggerTransform hview h
  · exact agree_pure h (.done _)

theorem agree_finishValidation (hview : view.Respects p R) (h : s.Alike p R t) (d : Draft)
    (text : String) {r r' : Reaction} (hr : r.Alike p r') :
    Agree p R (finishValidation view d text r) (finishValidation view d text r') s t
      (Progress.Alike p) := by
  obtain ⟨hnotes, hresult⟩ := Service.Client.readVerdict_alike d hr
  unfold finishValidation
  dsimp only
  generalize Service.Client.readVerdict d r = x at hnotes hresult
  generalize Service.Client.readVerdict d r' = y at hnotes hresult
  have hnoted := h.noteAll hnotes
  refine agree_change (agree_get ?_)
  rw [(hnoted.store.draft d).text, hnoted.store.bothValid]
  refine agree_change ?_
  refine agree_bind (agree_reached (hnoted.hearVerdict d text hresult) hresult)
    fun o o' s t h ho => ?_
  split
  · exact agree_bind (agree_write h (.same _)) fun _ _ _ _ h _ => agree_pure h (.done _)
  cases ho with
  | ok v => exact agree_reportVerdict hview h d v _
  | error hreason =>
    refine agree_bind (agree_write h (.error .warning _ [("buffer", _)] hreason))
      fun _ _ _ _ h _ => ?_
    exact agree_bind (agree_announceState hview h _) fun _ _ _ _ h _ => agree_pure h (.done _)

theorem agree_refuseStray (h : s.Alike p R t) (text : String) :
    Agree p R (refuseStray text) (refuseStray text) s t (Progress.Alike p) := by
  unfold refuseStray
  refine agree_get ?_
  rw [h.store.outputText]
  split
  · exact agree_bind (agree_write h (.same _)) fun _ _ _ _ h _ => agree_pure h (.done _)
  · exact agree_throw h _

theorem agree_finishStray (h : s.Alike p R t) (text : String) {r r' : Reaction}
    (hr : r.Alike p r') :
    Agree p R (finishStray text r) (finishStray text r') s t (Progress.Alike p) := by
  obtain ⟨hnotes, hresult⟩ := Service.Client.readVerdict_alike .spec hr
  unfold finishStray
  dsimp only
  generalize Service.Client.readVerdict .spec r = x at hnotes hresult
  generalize Service.Client.readVerdict .spec r' = y at hnotes hresult
  refine agree_change ?_
  have hnoted := h.noteAll hnotes
  obtain ⟨notes, result⟩ := x
  obtain ⟨notes', result'⟩ := y
  cases hresult with
  | same =>
    dsimp only
    split
    · exact agree_refuseStray hnoted text
    · exact agree_refuseStray hnoted text
    · exact agree_throw hnoted _
  | reason => exact agree_refuseStray hnoted text

theorem agree_validate (hview : view.Respects p R) (h : s.Alike p R t) (b : Buffer)
    (text : String) :
    Agree p R (validate view b text) (validate view b text) s t (Progress.Alike p) := by
  unfold validate
  split
  · refine agree_bind (agree_send h _) fun _ _ _ _ h hreply => ?_
    exact agree_receive h hreply (fun _ _ hr _ => agree_finishValidation hview h _ _ hr)
      fun _ _ hr _ => .verdict _ _ hr
  · refine agree_bind (agree_send h _) fun _ _ _ _ h hreply => ?_
    exact agree_receive h hreply (fun _ _ hr _ => agree_finishStray h _ hr)
      fun _ _ hr _ => .stray _ hr

/-! ## Actions -/

theorem agree_handleEdit (hview : view.Respects p R) (h : s.Alike p R t) (e : Event) :
    Agree p R (handleEdit view e) (handleEdit view e) s t (Progress.Alike p) := by
  unfold handleEdit
  split
  · refine agree_change ?_
    exact agree_bind (agree_announceState hview (h.applyEdit _ _ _) _) fun _ _ _ _ h _ =>
      agree_pure h (.done _)
  · exact agree_bind (agree_write h (.same _)) fun _ _ _ _ h _ => agree_pure h (.done _)

theorem agree_handleArmed (hview : view.Respects p R) (h : s.Alike p R t) (armed : Bool) :
    Agree p R (handleArmed view armed) (handleArmed view armed) s t (Progress.Alike p) := by
  unfold handleArmed
  refine agree_get ?_
  dsimp only
  rw [h.store.armed, h.store.bothValid]
  refine agree_change ?_
  refine agree_bind (agree_write (h.switch armed) (.same _)) fun _ _ _ _ h _ => ?_
  split
  · exact agree_triggerTransform hview h
  · exact agree_pure h (.done _)

theorem agree_dispatchEvent (hview : view.Respects p R) (h : s.Alike p R t) (e : Event) :
    Agree p R (dispatch view e) (dispatch view e) s t (Progress.Alike p) := by
  unfold dispatch
  refine agree_get ?_
  rw [h.bus]
  refine agree_dispatch h _ (.refl e) (.done _) fun r _ _ h => ?_
  cases r with
  | applyEdit => exact agree_handleEdit hview h e
  | transform => exact agree_handleTransform hview h
  | setArmed => exact agree_handleArmed hview h _
  | view =>
    exact agree_bind (agree_present hview h (.refl e)) fun _ _ _ _ h _ => agree_pure h (.done _)

theorem agree_edit (hview : view.Respects p R) (h : s.Alike p R t) (b : Buffer) (text : String) :
    Agree p R (edit view b text) (edit view b text) s t (Progress.Alike p) :=
  agree_dispatchEvent hview h _

theorem agree_announceFormatted (hview : view.Respects p R) (h : s.Alike p R t) (b : Buffer) :
    Agree p R (announceFormatted view b) (announceFormatted view b) s t (Progress.Alike p) := by
  unfold announceFormatted
  split
  · exact agree_bind (agree_announceNotice hview h (.refl _) _) fun _ _ _ _ h _ =>
      agree_pure h (.done _)
  · exact agree_throw h _

theorem agree_format (hview : view.Respects p R) (h : s.Alike p R t) (b : Buffer) :
    Agree p R (format view b) (format view b) s t (Progress.Alike p) := by
  unfold format
  refine agree_get ?_
  dsimp only
  rw [h.store.text]
  split
  · exact agree_pure h (.done _)
  split
  · exact agree_bind (agree_announceNotice hview h (.refl _) _) fun _ _ _ _ h _ =>
      agree_pure h (.done _)
  · split
    · exact agree_bind (agree_edit hview h b _) fun _ _ _ _ h _ => agree_announceFormatted hview h b
    · exact agree_announceFormatted hview h b

theorem agree_clear (hview : view.Respects p R) (h : s.Alike p R t) (d : Draft) :
    Agree p R (clear view d) (clear view d) s t (Progress.Alike p) := by
  unfold clear
  refine agree_bind (agree_edit hview h _ _) fun _ _ _ _ h _ => ?_
  exact agree_bind (agree_announceNotice hview h (.refl _) _) fun _ _ _ _ h _ =>
    agree_pure h (.done _)

theorem agree_finishOperations (h : s.Alike p R t) (r : Reaction) :
    Agree p R (finishOperations r) (finishOperations r) s t (Progress.Alike p) := by
  unfold finishOperations
  split
  · exact agree_pure h (.done _)
  · exact agree_throw h _

/-- For the operations, too, since there the answer is the same. -/
theorem agree_listOperations (h : s.Alike p R t) :
    Agree p R listOperations listOperations s t (Progress.Alike p) := by
  unfold listOperations
  refine agree_bind (agree_send h _) fun _ _ _ _ h hreply => ?_
  refine agree_receive h hreply (fun r _ _ hsame => ?_) fun r _ _ hsame => ?_
  · cases hsame rfl
    exact agree_finishOperations h r
  · cases hsame rfl
    exact .same _

theorem agree_awaitEdits (h : s.Alike p R t) {x y : Progress} (hxy : x.Alike p y) :
    Agree p R (awaitEdits x) (awaitEdits y) s t (Progress.Alike p) := by
  unfold awaitEdits
  refine agree_get ?_
  dsimp only
  rw [h.pendingEdits.isEmpty]
  split
  · exact agree_pure h hxy
  · exact agree_pure h (.paused (.activities h.pendingEdits) (.same _))

theorem agree_drain (h : s.Alike p R t) : Agree p R drain drain s t (Progress.Alike p) := by
  have hrunning := h.validations
  unfold drain
  refine agree_get ?_
  unfold Coalescing.Scheduler.wait
  rw [h.scheduler, hrunning.isEmpty]
  cases s.validations.isEmpty with
  | false => exact agree_pure h (.paused (.activities hrunning) (.same _))
  | true =>
    cases s.scheduler.pending.isEmpty with
    | false => exact agree_pure h (.paused (.time _) (.same _))
    | true => exact agree_awaitEdits h (.done _)

theorem agree_settle (h : s.Alike p R t) : Agree p R settle settle s t (Progress.Alike p) := by
  unfold settle
  refine agree_get ?_
  rw [h.pendingEdits.isEmpty]
  split
  · exact agree_drain h
  · exact agree_awaitEdits h (.done _)

theorem agree_plainly {f : Session V → Session V} (h : (f s).Alike p R (f t)) :
    Agree p R (plainly f) (plainly f) s t (Progress.Alike p) :=
  agree_change (agree_pure h (.done _))

theorem agree_start (hview : view.Respects p R) (h : s.Alike p R t) (a : Action) :
    Agree p R (start view a) (start view a) s t (Progress.Alike p) := by
  cases a with
  | edit b text => exact agree_edit hview h b text
  | format b => exact agree_format hview h b
  | clear d => exact agree_clear hview h d
  | requestTransform => exact agree_requestTransform hview h
  | setArmed armed => exact agree_dispatchEvent hview h _
  | validate b text => exact agree_validate hview h b text
  | transform => exact agree_transform hview h
  | checkDrafts =>
    unfold start
    refine agree_get ?_
    rw [missing?_eq h.store]
    split
    · exact agree_throw h _
    · exact agree_pure h (.done _)
  | dispatch e => exact agree_dispatchEvent hview h e
  | listOperations => exact agree_listOperations h
  | treeView =>
    unfold start
    refine agree_get ?_
    rw [h.treeView]
    exact agree_pure h (.done _)
  | settle => exact agree_settle h
  | enter => exact agree_pure h (.done _)
  | close => exact agree_plainly h.close
  | attach b name => exact agree_change (agree_pure (h.attach b name) (.done _))
  | type name text =>
    unfold start
    refine agree_get ?_
    rw [h.editors]
    split
    · exact agree_plainly (h.typeInto name text)
    · exact agree_throw h _
  | report name => exact agree_plainly (h.report name)

theorem agree_goOn (hview : view.Respects p R) (h : s.Alike p R t) {x y : Stage}
    (hxy : x.Alike p y) : Agree p R (goOn view x) (goOn view y) s t (Progress.Alike p) := by
  cases hxy with
  | same x =>
    cases x with
    | start a => exact agree_start hview h a
    | verdict d text r => exact agree_finishValidation hview h d text (.same r)
    | stray text r => exact agree_finishStray h text (.same r)
    | outcome generation requested r => exact agree_finishTransform hview h _ _ (.same r)
    | names r => exact agree_finishOperations h r
    | drain => exact agree_drain h
  | verdict d text hr => exact agree_finishValidation hview h d text hr
  | stray text hr => exact agree_finishStray h text hr
  | outcome generation requested hr => exact agree_finishTransform hview h _ _ hr

end Act

end Workbench.Session
