import Workbench.Proofs.Session.Effect
import Workbench.Proofs.Session.Leads
import Workbench.Proofs.Session.Trigger

/-!
# What stretches of work enter

What a validation and a transform enter in the history, stretch by stretch, with a view that does not
break and without an editor for the output: a request that goes out, a verdict that is heard, and with
it perhaps a transform. All that becomes of the documents can be read off what is entered; the timers,
the activities and the client stay as they are.
-/
namespace Workbench.Session

open Document (Buffer Draft Store)
open Service (Client Endpoint Reaction Request TransformRequest)

variable {V : Type} {α β : Type} {view : View V} {s t u : Session V} {new more : List Happening}

/-! ## What is entered -/

/-- All that has become of a session is entered in its history, but for a warning. -/
structure Enters (new : List Happening) (s t : Session V) : Prop where
  board : t.board = s.board
  scheduler : t.scheduler = s.scheduler
  attached : t.attached = s.attached
  client : t.client = s.client
  finished : t.finished = s.finished
  history : t.history = s.history ++ new
  documents : t.documents = s.documents.after new

theorem Enters.refl (s : Session V) : Enters [] s s :=
  ⟨rfl, rfl, rfl, rfl, rfl, (List.append_nil _).symm, rfl⟩

theorem Enters.trans (h : Enters new s t) (h' : Enters more t u) : Enters (new ++ more) s u where
  board := h'.board.trans h.board
  scheduler := h'.scheduler.trans h.scheduler
  attached := h'.attached.trans h.attached
  client := h'.client.trans h.client
  finished := h'.finished.trans h.finished
  history := by rw [h'.history, h.history, List.append_assoc]
  documents := by rw [h'.documents, h.documents, Documents.after_append]

/-- All that has become of a session is entered in its history. -/
structure Adds (new : List Happening) (s t : Session V) : Prop extends Enters new s t where
  warning : t.lastWarning = s.lastWarning

theorem Adds.refl (s : Session V) : Adds [] s s := ⟨.refl s, rfl⟩

theorem Adds.trans (h : Adds new s t) (h' : Adds more t u) : Adds (new ++ more) s u :=
  ⟨h.toEnters.trans h'.toEnters, h'.warning.trans h.warning⟩

/-- The request that went out to an endpoint, if that is what happened. -/
def Happening.requestTo? (e : Endpoint) (h : Happening) : Option Request :=
  h.sent?.bind fun x => if x.outgoing.request.endpoint = e then some x.outgoing.request else none

/-- The requests that have gone out to an endpoint. -/
def requestsIn (e : Endpoint) (history : List Happening) : List Request :=
  history.filterMap (·.requestTo? e)

theorem requestsIn_append (e : Endpoint) (hs hs' : List Happening) :
    requestsIn e (hs ++ hs') = requestsIn e hs ++ requestsIn e hs' := List.filterMap_append

/-- Only the texts matter for what is missing. -/
theorem missing?_congr {st st' : Store} (h : ∀ d, (st'.draft d).text = (st.draft d).text) :
    missing? st' = missing? st := by
  have hinput := h .input
  have hspec := h .spec
  unfold Store.draft at hinput hspec
  rw [missing?, hinput, hspec, missing?]

/-- Nothing about the drafts is entered; these requests for a transform are. There is no warning unless
something is missing for a transform. -/
structure Beside (calls : List Request) (s t : Session V) : Prop where
  enters : ∃ new, Enters new s t ∧ ∀ e, requestsIn e new = if e = .transform then calls else []
  draft : ∀ d, t.store.draft d = s.store.draft d
  armed : t.store.armed = s.store.armed
  warned : missing? s.store = none → t.lastWarning = s.lastWarning

theorem Beside.missing?_eq {calls : List Request} (h : Beside calls s t) :
    missing? t.store = missing? s.store := missing?_congr fun d => by rw [h.draft]

theorem Beside.trans {calls calls' : List Request} (h : Beside calls s t) (h' : Beside calls' t u) :
    Beside (calls ++ calls') s u := by
  obtain ⟨new, henters, hrequests⟩ := h.enters
  obtain ⟨more, henters', hrequests'⟩ := h'.enters
  refine ⟨⟨new ++ more, henters.trans henters', fun e => ?_⟩, fun d => ?_, ?_, fun hnone => ?_⟩
  · rw [requestsIn_append, hrequests, hrequests']
    split <;> rfl
  · rw [h'.draft, h.draft]
  · rw [h'.armed, h.armed]
  · rw [h'.warned (h.missing?_eq.trans hnone), h.warned hnone]

theorem Adds.beside (h : Adds [] s t) : Beside [] s t := by
  have hstore : t.store = s.store := congrArg Documents.store h.documents
  exact ⟨⟨[], h.toEnters, fun e => by simp [requestsIn]⟩, fun d => by rw [hstore], by rw [hstore],
    fun _ => h.warning⟩

/-- One thing that happens beside the drafts. -/
theorem Adds.beside_of {h : Happening} (hadds : Adds [h] s t) {calls : List Request}
    (hrequests : ∀ e, (h.requestTo? e).toList = if e = .transform then calls else [])
    (hdraft : ∀ x d, (Documents.next x h).store.draft d = x.store.draft d)
    (harmed : ∀ x, (Documents.next x h).store.armed = x.store.armed) : Beside calls s t := by
  have hstore : t.store = (s.documents.next h).store := congrArg Documents.store hadds.documents
  refine ⟨⟨[h], hadds.toEnters, fun e => ?_⟩, fun d => by rw [hstore, hdraft]; rfl,
    by rw [hstore, harmed]; rfl, fun _ => hadds.warning⟩
  rw [← hrequests e]
  unfold requestsIn
  rw [List.filterMap_cons]
  cases h.requestTo? e <;> rfl

theorem requestTo?_of_sent?_eq_none {h : Happening} (hsent : h.sent? = none) (e : Endpoint) :
    (h.requestTo? e).toList = if e = .transform then [] else [] := by
  simp [Happening.requestTo?, hsent]

theorem beside_hearOutcome (s : Session V) (generation : Nat)
    (result : Except Failure Service.Outcome) : Beside [] s (s.hearOutcome generation result) := by
  have hadds : Adds [.answered generation result] s (s.hearOutcome generation result) :=
    ⟨⟨rfl, rfl, rfl, rfl, rfl, rfl, documents_hearOutcome ..⟩, rfl⟩
  refine hadds.beside_of (requestTo?_of_sent?_eq_none rfl) (fun x d => ?_) fun x => ?_ <;>
    unfold Documents.next <;> dsimp only <;> split
  · exact draft_transformed ..
  · rfl
  · exact armed_transformed ..
  · rfl

theorem beside_begin (s : Session V) : Beside [] s s.begin := by
  have hadds : Adds [.began (s.generation + 1) s.request] s s.begin :=
    ⟨⟨rfl, rfl, rfl, rfl, rfl, rfl, rfl⟩, rfl⟩
  exact hadds.beside_of (requestTo?_of_sent?_eq_none rfl) (fun x d => by cases d <;> rfl) fun _ => rfl

theorem beside_record {h : Happening} (s : Session V) (hsent : h.sent? = none)
    (hnext : ∀ x : Documents, x.next h = x) : Beside [] s (s.record h) := by
  have hadds : Adds [h] s (s.record h) := by
    refine ⟨⟨rfl, rfl, rfl, rfl, rfl, rfl, ?_⟩, rfl⟩
    exact (hnext s.documents).symm
  exact hadds.beside_of (requestTo?_of_sent?_eq_none hsent) (fun x d => by rw [hnext])
    fun x => by rw [hnext]

/-- The request of a transform goes out. -/
theorem beside_sent (s : Session V) (time : Nat) {out : Service.Outgoing} (reply : Service.Reply)
    (server : Service.Server) (h : out.request.endpoint = .transform) :
    Beside [out.request] s (record (.sent ⟨time, out⟩ reply) { s with server }) := by
  have hadds : Adds [.sent ⟨time, out⟩ reply] s (record (.sent ⟨time, out⟩ reply) { s with server }) :=
    ⟨⟨rfl, rfl, rfl, rfl, rfl, rfl, rfl⟩, rfl⟩
  refine hadds.beside_of (fun e => ?_) (fun _ _ => rfl) fun _ => rfl
  by_cases he : e = .transform
  · simp [Happening.requestTo?, Happening.sent?, h, he]
  · simp [Happening.requestTo?, Happening.sent?, h, he, Ne.symm he]

/-! ## Stretches of work beside the drafts -/

/-- It comes to an end, or sleeps until a stage of some kind. -/
def Progress.Rests (P : Stage → Prop) : Progress → Prop
  | .done _ => True
  | .paused (.time _) next => P next
  | .paused (.activities _) _ => False

/-- Is it the stage at which the answer to a transform is heard? -/
def Stage.IsOutcome (stage : Stage) : Prop := ∃ generation requested r,
  stage = .outcome generation requested r

namespace Act

/-- A stretch of work that enters nothing, and does not fail. -/
def IsMute (x : Act V α) : Prop := ∀ s, Adds [] s (x.run s).2 ∧ ∃ a, (x.run s).1 = .ok a

/-- A stretch of work beside the drafts, that enters these requests for a transform. It may fail. -/
structure Calls (calls : List Request) (good : α → Prop) (x : Act V α) (s : Session V) : Prop where
  beside : Beside calls s (x.run s).2
  result : ∀ a, (x.run s).1 = .ok a → good a

variable {calls calls' : List Request} {good : α → Prop} {good' : β → Prop}

theorem isMute_change {g : Session V → Session V} (hg : ∀ s, Adds [] s (g s)) : IsMute (change g) :=
  fun s => ⟨hg s, (), rfl⟩

theorem isMute_write (n : Note) : IsMute (write n : Act V Unit) :=
  isMute_change fun _ => ⟨⟨rfl, rfl, rfl, rfl, rfl, (List.append_nil _).symm, rfl⟩, rfl⟩

theorem isMute_noteAll (ns : List Note) : IsMute (change (noteAll ns) : Act V Unit) :=
  isMute_change fun _ => ⟨⟨rfl, rfl, rfl, rfl, rfl, (List.append_nil _).symm, rfl⟩, rfl⟩

theorem isMute_pure (a : α) : IsMute (pure a : Act V α) := fun s => ⟨.refl s, a, rfl⟩

theorem IsMute.bind {x : Act V α} {f : α → Act V β} (hx : IsMute x) (hf : ∀ a, IsMute (f a)) :
    IsMute (x >>= f) := by
  intro s
  obtain ⟨hadds, a, ha⟩ := hx s
  rw [run_bind]
  rcases hrun : x.run s with ⟨r, t⟩
  rw [hrun] at hadds ha
  cases ha
  obtain ⟨hadds', hresult⟩ := hf a t
  exact ⟨hadds.trans hadds', hresult⟩

theorem isMute_announce (hview : ¬ View.CanBreak view) (e : Event) : IsMute (announce view e) := by
  have hpresent : IsMute (present view e) := by
    intro s
    rw [run_present]
    cases hbreak : (view s.store e s.view).2 with
    | none =>
      exact ⟨⟨⟨rfl, rfl, rfl, rfl, rfl, (List.append_nil _).symm, rfl⟩, rfl⟩, (), rfl⟩
    | some f => exact absurd ⟨_, _, _, by rw [hbreak]; rfl⟩ hview
  intro s
  have hdispatch : IsMute (s.bus.dispatch e write (fun _ => present view e) ()) := by
    unfold Bus.dispatch
    split
    · exact (isMute_write _).bind fun _ => hpresent
    · exact (isMute_write _).bind fun _ => isMute_pure ()
  exact hdispatch s

/-! ### Putting them together -/

theorem calls_pure {a : α} (h : good a) : Calls [] good (pure a : Act V α) s := by
  refine ⟨(Adds.refl s).beside, fun b hb => ?_⟩
  cases hb
  exact h

theorem calls_get {f : Session V → Act V α} (h : Calls calls good (f s) s) :
    Calls calls good (get >>= f) s := ⟨h.beside, h.result⟩

theorem calls_change {g : Session V → Session V} {f : Unit → Act V α} (hg : Beside [] s (g s))
    (h : Calls calls good (f ()) (g s)) : Calls calls good (change g >>= f) s :=
  ⟨hg.trans h.beside, h.result⟩

theorem calls_mute {x : Act V α} {f : α → Act V β} (hx : IsMute x)
    (h : ∀ a t, Adds [] s t → Calls calls good' (f a) t) : Calls calls good' (x >>= f) s := by
  obtain ⟨hadds, a, ha⟩ := hx s
  have hrun : (x >>= f).run s = (f a).run (x.run s).2 := by
    rw [run_bind]
    rcases hx : x.run s with ⟨r, t⟩
    rw [hx] at ha
    cases ha
    rfl
  have hf := h a _ hadds
  refine ⟨?_, fun b hb => hf.result b (by rw [← hrun, hb])⟩
  rw [hrun]
  exact hadds.beside.trans hf.beside

/-- A result is looked at. -/
theorem calls_reached {result : Except Failure α} {f : Except String α → Act V β}
    (h : ∀ o, Calls [] good' (f o) s) : Calls [] good' (reached result >>= f) s := by
  unfold reached
  split
  · exact h _
  · exact h _
  · exact ⟨(Adds.refl s).beside, fun b hb => by cases hb⟩

/-- The request of a transform goes out if it can be written, and nothing more if it cannot. -/
theorem calls_send {request : TransformRequest} {f : Service.Reply → Act V α}
    (hsend : s.client.canSend .transform = true)
    (h : ∀ reply t, Beside (Request.transform? request).toList s t → Calls [] good (f reply) t) :
    Calls (Request.transform? request).toList good (send (.transform request) >>= f) s := by
  have hnoted : Beside [] s (s.noteAll (Service.Call.transform request).notes) :=
    (isMute_noteAll _ s).1.beside
  cases hrequest : (Service.Call.transform request).request? with
  | some r =>
    have hcan : s.client.canSend (Service.Call.transform request).endpoint = true := hsend
    obtain ⟨out, reply, server, rfl, hok⟩ := Client.send_of_canSend hcan hrequest s.server
    have hrequest' : Request.transform? request = some out.request := hrequest
    have hsent : Beside [out.request] s (record (.sent ⟨s.board.now, out⟩ reply)
        { s.noteAll (Service.Call.transform request).notes with server }) :=
      hnoted.trans (beside_sent _ _ reply server (Client.endpoint_of_send hok))
    rw [hrequest'] at h ⊢
    have hf := h reply _ hsent
    have hrun := run_bind (send (.transform request)) f s
    rw [run_send hok] at hrun
    refine ⟨?_, fun a ha => hf.result a (by rw [← ha, hrun])⟩
    rw [hrun]
    exact hsent.trans hf.beside
  | none =>
    have hnone : Request.transform? request = none := hrequest
    cases hfail : s.client.send s.server (.transform request) with
    | ok x =>
      rw [Client.request_of_send hfail] at hrequest
      cases hrequest
    | error e =>
      have hrun := run_bind (send (.transform request)) f s
      rw [run_send_of_error hfail] at hrun
      rw [hnone]
      refine ⟨?_, fun a ha => ?_⟩
      · rw [hrun]
        exact hnoted.trans (beside_record _ rfl fun _ => rfl)
      · rw [hrun] at ha
        cases ha

/-! ### Transforms -/

section Transform

variable (hview : ¬ View.CanBreak view)

include hview

theorem isMute_reportOutcome (generation : Nat) (o : Except String Service.Outcome) :
    IsMute (reportOutcome view generation o) := by
  have htell (message : String) (level : NoticeLevel) (n : Note) :
      IsMute (do write n; announceState view .output; announceNotice view message level) :=
    (isMute_write _).bind fun _ => (isMute_announce hview _).bind fun _ => isMute_announce hview _
  unfold reportOutcome
  split
  · exact htell _ _ _
  · split <;> exact htell _ _ _

variable (hnone : s.attached .output = none)

include hnone

/-- The answer to a transform is heard. -/
theorem calls_finishTransform (P : Stage → Prop) (generation : Nat) (requested : Bool)
    (r : Reaction) : Calls [] (Progress.Rests P) (finishTransform view generation requested r) s := by
  have hconclude (o : Option Service.Outcome) {t : Session V} (ht : t.attached .output = none) :
      Calls [] (Progress.Rests P) (conclude requested o) t := by
    unfold conclude
    split
    · refine calls_change ?_ (calls_pure trivial)
      rw [syncEditor_of_none t _ ht]
      exact (Adds.refl t).beside
    · exact calls_pure trivial
  unfold finishTransform
  rcases Client.readOutcome r with ⟨notes, result⟩
  refine calls_mute (isMute_noteAll _) fun _ t ht => calls_get ?_
  refine calls_change (beside_hearOutcome ..) (calls_reached fun o => ?_)
  have hattached : (t.hearOutcome generation result).attached .output = none := by
    change t.attached .output = none
    rw [ht.attached, hnone]
  split
  · exact calls_mute (isMute_reportOutcome hview _ _) fun _ u hu =>
      hconclude _ (by rw [hu.attached, hattached])
  · exact calls_mute (isMute_write _) fun _ u hu => hconclude _ (by rw [hu.attached, hattached])

theorem calls_callTransform (hsend : s.client.canSend .transform = true) (requested : Bool) :
    Calls (Request.transform? s.request).toList (Progress.Rests Stage.IsOutcome)
      (callTransform view requested) s := by
  refine calls_get (calls_mute (isMute_write _) fun _ t ht => ?_)
  refine calls_mute (isMute_announce hview _) fun _ u hu => ?_
  refine calls_send (by rw [hu.client, ht.client]; exact hsend) fun reply w hw => ?_
  unfold receive
  split
  · have hattached : w.attached .output = none := by
      obtain ⟨new, henters, -⟩ := hw.enters
      rw [henters.attached, hu.attached, ht.attached, hnone]
    exact calls_finishTransform hview hattached _ _ _ _
  · exact calls_pure ⟨_, _, _, rfl⟩

theorem calls_beginTransform (hsend : s.client.canSend .transform = true) (requested : Bool) :
    Calls (Request.transform? s.request).toList (Progress.Rests Stage.IsOutcome)
      (beginTransform view requested) s :=
  calls_change (beside_begin s) (calls_callTransform (s := s.begin) hview hnone hsend requested)

variable (hsend : missing? s.store = none → s.client.canSend .transform = true)

include hsend

/-- An event asks for a transform, and there is something to transform or not. -/
theorem calls_requestTransform :
    Calls (if (missing? s.store).isNone then (Request.transform? s.request).toList else [])
      (Progress.Rests Stage.IsOutcome) (requestTransform view) s := by
  refine calls_get (calls_mute (isMute_write _) fun _ t ht => calls_get ?_)
  have hstore : t.store = s.store := congrArg Documents.store ht.documents
  have hrequest : t.request = s.request := by rw [request, hstore, request]
  rw [← hstore] at hsend
  rw [← hstore, ← hrequest]
  cases hmissing : missing? t.store with
  | some reason =>
    have hwarned : Beside [] t { t with lastWarning := some reason } := by
      refine ⟨⟨[], ⟨rfl, rfl, rfl, rfl, rfl, (List.append_nil _).symm, rfl⟩, fun e => ?_⟩,
        fun _ => rfl, rfl, fun h => ?_⟩
      · simp [requestsIn]
      · rw [hmissing] at h
        cases h
    refine calls_change hwarned ?_
    refine calls_mute (isMute_write _) fun _ u hu => ?_
    exact calls_mute (isMute_announce hview _) fun _ v hv => calls_pure trivial
  | none =>
    refine calls_beginTransform hview ?_ ?_ true
    · rw [ht.attached, hnone]
    · rw [ht.client, hsend hmissing]

theorem calls_triggerTransform :
    Calls (if (missing? s.store).isNone then (Request.transform? s.request).toList else [])
      (Progress.Rests Stage.IsOutcome) (triggerTransform view) s :=
  calls_change (beside_record s rfl fun _ => rfl)
    (calls_requestTransform (s := s.record .triggered) hview hnone hsend)

omit hsend in
/-- A verdict that counts is reported. -/
theorem calls_reportVerdict (hsend : s.isPrimed = true → s.client.canSend .transform = true) (d : Draft) (v : Service.Verdict) (wasReady : Bool) :
    Calls (if s.isPrimed && !wasReady && (missing? s.store).isNone then
        (Request.transform? s.request).toList else [])
      (Progress.Rests Stage.IsOutcome) (reportVerdict view d v wasReady) s := by
  refine calls_mute (isMute_write _) fun _ t ht => ?_
  refine calls_mute (isMute_announce hview _) fun _ u hu => calls_get ?_
  have hadds := ht.trans hu
  have hstore : u.store = s.store := congrArg Documents.store hadds.documents
  have hprimed : (u.store.armed && u.store.bothValid && !wasReady) = (s.isPrimed && !wasReady) := by
    rw [hstore, isPrimed]
  dsimp only
  rw [hprimed]
  cases hready : s.isPrimed && !wasReady with
  | false => exact calls_pure trivial
  | true =>
    have hsend := hsend (Bool.and_elim_left hready)
    rw [Bool.true_and, if_pos rfl]
    refine calls_mute (isMute_write _) fun _ w hw => ?_
    have hall := hadds.trans hw
    have hstore' : w.store = s.store := congrArg Documents.store hall.documents
    have hcalls := calls_triggerTransform (s := w) hview (by rw [hall.attached, hnone])
      (fun _ => by rw [hall.client, hsend])
    rwa [hstore', request, hstore'] at hcalls

end Transform

/-! ### Validations -/

/-- The transform that a verdict sets off. -/
def due (s t : Session V) : List Request :=
  if t.isPrimed && !s.isPrimed && (missing? t.store).isNone then (Request.transform? t.request).toList
  else []

theorem due_of_handAfter (h : t.handAfter s = .free) : due s t = [] := by
  unfold handAfter at h
  unfold due
  split at h
  · cases h
  · rw [if_neg]
    simp_all

/-- Without a result there is a reason, or the stretch of work fails. -/
theorem calls_reached_error {e : Failure} {f : Except String α → Act V β}
    (h : ∀ reason, Calls [] good' (f (.error reason)) s) :
    Calls [] good' (reached (.error e) >>= f) s := by
  cases e with
  | transport endpoint reason => exact h reason
  | _ => exact ⟨(Adds.refl s).beside, fun b hb => by cases hb⟩

/-- A verdict is heard, and after it there is perhaps a transform. -/
structure Judges (d : Draft) (text : String) (r : Reaction) (x : Act V Progress) (s : Session V) :
    Prop where
  heard : ∃ t, Adds [.judged d text (Client.readVerdict d r).2] s t ∧ Beside (due s t) t (x.run s).2
  result : ∀ a, (x.run s).1 = .ok a → a.Rests Stage.IsOutcome

/-- A verdict is heard after the notes about its reply. -/
theorem judges_of {d : Draft} {text : String} {r : Reaction} {notes : List Note}
    {result : Except Failure Service.Verdict} (hread : Client.readVerdict d r = (notes, result))
    {f : Session V → Act V Progress}
    (h : ∀ u, Adds [] s u → Calls (due u (u.hearVerdict d text result))
      (Progress.Rests Stage.IsOutcome) (f u) (u.hearVerdict d text result)) :
    Judges d text r
      (do change (noteAll notes); let t ← get; change (hearVerdict d text result); f t) s := by
  have hcalls := h (s.noteAll notes) (isMute_noteAll notes s).1
  refine ⟨⟨(s.noteAll notes).hearVerdict d text result, ?_, hcalls.beside⟩, hcalls.result⟩
  rw [hread]
  exact ⟨⟨rfl, rfl, rfl, rfl, rfl, rfl, rfl⟩, rfl⟩

theorem judges_finishValidation (hview : ¬ View.CanBreak view) (hnone : s.attached .output = none)
    (d : Draft) (text : String) (r : Reaction)
    (hsend : (s.hearVerdict d text (Client.readVerdict d r).2).isPrimed = true →
      s.client.canSend .transform = true) :
    Judges d text r (finishValidation view d text r) s := by
  unfold finishValidation
  rcases hread : Client.readVerdict d r with ⟨notes, result⟩
  refine judges_of hread fun u hu => ?_
  cases result with
  | error e =>
    -- without a verdict there is no transform
    rw [due_of_handAfter (handAfter_hearVerdict_error d text e u)]
    refine calls_reached_error fun reason => ?_
    split
    · exact calls_mute (isMute_write _) fun _ _ _ => calls_pure trivial
    · refine calls_mute (isMute_write _) fun _ _ _ => ?_
      exact calls_mute (isMute_announce hview _) fun _ _ _ => calls_pure trivial
  | ok v =>
    change Calls _ _ (ite _ _ _) _
    split
    case isTrue hstale =>
      rw [due_of_handAfter (handAfter_of_store (by rw [store_hearVerdict, heard_eq, if_neg hstale]))]
      exact calls_mute (isMute_write _) fun _ _ _ => calls_pure trivial
    case isFalse =>
      have hstore : (u.hearVerdict d text (.ok v)).store = (s.hearVerdict d text (.ok v)).store := by
        have hsame : u.store = s.store := congrArg Documents.store hu.documents
        rw [store_hearVerdict, hsame, store_hearVerdict]
      have hcan (hready : (u.hearVerdict d text (.ok v)).isPrimed = true) :
          (u.hearVerdict d text (.ok v)).client.canSend .transform = true := by
        rw [isPrimed, hstore] at hready
        change u.client.canSend .transform = true
        rw [hu.client]
        exact hsend (by rw [hread]; exact hready)
      have hreport := calls_reportVerdict (s := u.hearVerdict d text (.ok v)) hview
        (by change u.attached .output = none; rw [hu.attached, hnone]) hcan d v u.store.bothValid
      have hprimed : ((u.hearVerdict d text (.ok v)).isPrimed && !u.store.bothValid) =
          ((u.hearVerdict d text (.ok v)).isPrimed && !u.isPrimed) := by
        unfold isPrimed
        rw [armed_hearVerdict]
        cases u.store.armed <;> simp
      rw [hprimed] at hreport
      exact hreport

/-- The request for a verdict goes out. Its reply is heard at once, or later. -/
theorem run_validate (view : View V) {d : Draft} (hsend : s.client.canSend (.validate d) = true)
    (text : String) :
    ∃ out reply t, out.request = Request.validate d text ∧
      Adds [.sent ⟨s.board.now, out⟩ reply] s t ∧
      ((validate view d.buffer text).run s =
          (.ok (.paused (.time reply.delay) (.verdict d text reply.reaction)), t) ∨
        (validate view d.buffer text).run s =
          (finishValidation view d text reply.reaction).run t) := by
  obtain ⟨out, reply, server, hout, hok⟩ := Client.send_validate_of_canSend hsend s.server text
  have hrun : (validate view d.buffer text).run s =
      (receive reply (finishValidation view d text) (.verdict d text)).run
        (record (.sent ⟨s.board.now, out⟩ reply)
          { s.noteAll (Service.Call.validate d text).notes with server }) := by
    unfold validate
    rw [Document.draft?_buffer]
    dsimp only
    rw [run_bind, run_send hok]
  refine ⟨out, reply, record (.sent ⟨s.board.now, out⟩ reply)
    { s.noteAll (Service.Call.validate d text).notes with server }, hout,
    ⟨⟨rfl, rfl, rfl, rfl, rfl, rfl, rfl⟩, rfl⟩, ?_⟩
  rw [hrun]
  unfold receive
  split
  · exact .inr rfl
  · exact .inl rfl

end Act

end Workbench.Session
