import Workbench.Proofs.Session.Stint

/-!
# The transform at the end

The user asks for a transform when everything else has been done. If something is missing there is a
warning, and if the request cannot be written the user is refused. Otherwise the request goes out; what
comes back for it is the last answer to a transform, and it is heard as such.
-/
namespace Workbench.Session

open Service (Client Endpoint Reaction Reply Request)

variable {V : Type} {α β : Type} {view : View V} {s t : Session V} {asks : Bool} {r : Reaction}
  {generation : Nat}

/-! ## The last answer -/

/-- What came back for a request to an endpoint, if one went out. -/
def Happening.replyFrom? (e : Endpoint) : Happening → Option Reply
  | .sent call reply => if call.outgoing.request.endpoint = e then some reply else none
  | _ => none

/-- What came back for the last request to an endpoint. -/
def lastReply? (e : Endpoint) (history : List Happening) : Option Reply :=
  (history.filterMap (·.replyFrom? e)).getLast?

theorem lastReply?_append {e : Endpoint} (history : List Happening) {new : List Happening}
    (h : ∀ x ∈ new, x.replyFrom? e = none) : lastReply? e (history ++ new) = lastReply? e history := by
  unfold lastReply?
  rw [List.filterMap_append, List.filterMap_eq_nil_iff.mpr h, List.append_nil]

theorem lastReply?_sent {e : Endpoint} (history : List Happening) {sent : Sent} {reply : Reply}
    (h : sent.outgoing.request.endpoint = e) :
    lastReply? e (history ++ [.sent sent reply]) = some reply := by
  unfold lastReply?
  rw [List.filterMap_append]
  simp [Happening.replyFrom?, h]

/-- Without a request there is no reply. -/
theorem lastReply?_eq_none {e : Endpoint} {history : List Happening} (h : requestsIn e history = []) :
    lastReply? e history = none := by
  rw [lastReply?, List.getLast?_eq_none_iff, List.filterMap_eq_nil_iff]
  intro x hx
  cases x with
  | sent sent reply =>
    have hnone := List.filterMap_eq_nil_iff.mp h _ hx
    simp only [Happening.requestTo?, Happening.sent?, Option.bind_some] at hnone
    simpa [Happening.replyFrom?] using hnone
  | _ => rfl

/-- Did the call end in an answer, or was the service not reached? -/
def isReached : Except Failure α → Bool
  | .ok _ => true
  | .error f => f.isTransport

/-- The answer to the latest transform, which was asked for last, is still to be heard. -/
structure Expects (s : Session V) (generation : Nat) (r : Reaction) : Prop where
  complete : missing? s.store = none
  latest : generation = s.generation
  sent : ∃ reply, lastReply? .transform s.history = some reply ∧ reply.reaction = r

/-- The answer to the latest transform has been heard. -/
structure Learnt (s : Session V) (r : Reaction) : Prop extends Expects s s.generation r where
  answered : .answered s.generation (Client.readOutcome r).2 ∈ s.history

/-- How the user may have come to an end. -/
inductive Ends (asks : Bool) (s : Session V) : Except Failure (List Answer) → Prop
  | rests (h : asks = false) (answers : List Answer) : Ends asks s (.ok answers)
  | warned (h : asks = true) (hmissing : missing? s.store ≠ none) (hwarning : s.lastWarning ≠ none)
      (answers : List Answer) : Ends asks s (.ok answers)
  | refused (h : asks = true) (hmissing : missing? s.store = none)
      (hsent : Request.transform? s.request = none) (f : Failure) : Ends asks s (.error f)
  | done (h : asks = true) (r : Reaction) (hlearnt : Learnt s r)
      (hreached : isReached (Client.readOutcome r).2 = true) (answers : List Answer) :
      Ends asks s (.ok answers)
  | failed (h : asks = true) (r : Reaction) (hlearnt : Learnt s r)
      (hreached : isReached (Client.readOutcome r).2 = false) (f : Failure) : Ends asks s (.error f)

/-- The documents, the history and the warning are the same. -/
structure SameReport (s t : Session V) : Prop where
  store : t.store = s.store
  generation : t.generation = s.generation
  history : t.history = s.history
  warning : t.lastWarning = s.lastWarning

theorem Adds.sameReport (h : Adds [] s t) : SameReport s t :=
  ⟨congrArg Documents.store h.documents, congrArg Documents.latest h.documents,
    h.history.trans (List.append_nil _), h.warning⟩

theorem Expects.congr (h : Expects s generation r) (hst : SameReport s t) : Expects t generation r :=
  ⟨by rw [hst.store]; exact h.complete, by rw [hst.generation]; exact h.latest,
    by rw [hst.history]; exact h.sent⟩

theorem Learnt.congr (h : Learnt s r) (hst : SameReport s t) : Learnt t r := by
  have hexpects := h.toExpects.congr hst
  rw [← hst.generation] at hexpects
  refine ⟨hexpects, ?_⟩
  rw [hst.generation, hst.history]
  exact h.answered

theorem Ends.congr {result : Except Failure (List Answer)} (h : Ends asks s result)
    (hst : SameReport s t) : Ends asks t result := by
  cases h with
  | rests h answers => exact .rests h answers
  | warned h hmissing hwarning answers =>
    exact .warned h (by rwa [hst.store]) (by rwa [hst.warning]) answers
  | refused h hmissing hsent f =>
    exact .refused h (by rwa [hst.store]) (by rwa [request, hst.store]) f
  | done h r hlearnt hreached answers => exact .done h r (hlearnt.congr hst) hreached answers
  | failed h r hlearnt hreached f => exact .failed h r (hlearnt.congr hst) hreached f

/-! ## What a stretch of work tells -/

/-- What is told when a stretch of work is over. -/
def Told (t : Session V) : Except Failure Progress → Prop
  | .error f => Ends true t (.error f)
  | .ok (.done _) => ∀ answers, Ends true t (.ok answers)
  | .ok (.paused (.time _) next) =>
    ∃ generation requested r, next = .outcome generation requested r ∧ Expects t generation r
  | .ok (.paused (.activities _) _) => False

namespace Act

/-- What a stretch of work tells when it is over. -/
def Tells (x : Act V Progress) (s : Session V) : Prop := Told (x.run s).2 (x.run s).1

theorem tells_get {f : Session V → Act V Progress} (h : Tells (f s) s) : Tells (get >>= f) s := h

theorem tells_change {g : Session V → Session V} {f : Unit → Act V Progress} (h : Tells (f ()) (g s)) :
    Tells (change g >>= f) s := h

theorem tells_mute {x : Act V α} {f : α → Act V Progress} (hx : IsMute x)
    (h : ∀ a t, Adds [] s t → Tells (f a) t) : Tells (x >>= f) s := by
  obtain ⟨hadds, a, ha⟩ := hx s
  unfold Tells
  rw [run_bind]
  rcases hrun : x.run s with ⟨result, t⟩
  rw [hrun] at hadds ha
  cases ha
  exact h a t hadds

variable (hview : ¬ View.CanBreak view)

include hview

/-- The answer to the latest transform is heard. -/
theorem tells_finishTransform (hnone : s.attached .output = none) (h : Expects s generation r)
    (requested : Bool) : Tells (finishTransform view generation requested r) s := by
  have hconclude (o : Option Service.Outcome) {t : Session V} (ht : t.attached .output = none)
      (hlearnt : Learnt t r) (hreached : isReached (Client.readOutcome r).2 = true) :
      Tells (conclude requested o) t := by
    unfold conclude
    split
    · refine tells_change fun answers => ?_
      rw [syncEditor_of_none t _ ht]
      exact .done rfl r hlearnt hreached answers
    · exact fun answers => .done rfl r hlearnt hreached answers
  unfold finishTransform
  rcases hread : Client.readOutcome r with ⟨notes, result⟩
  refine tells_mute (isMute_noteAll _) fun _ t ht => tells_get (tells_change ?_)
  have hexpects := h.congr ht.sameReport
  have hlearnt : Learnt (t.hearOutcome generation result) r := by
    refine ⟨⟨?_, rfl, ?_⟩, ?_⟩
    · have hsame : missing? (t.hearOutcome generation result).store = missing? t.store :=
        missing?_congr fun d => by rw [draft_hearOutcome]
      exact hsame.trans hexpects.complete
    · rw [history_hearOutcome, lastReply?_append _ (by simp [Happening.replyFrom?])]
      exact hexpects.sent
    · change Happening.answered t.generation _ ∈ _
      rw [history_hearOutcome, hread, hexpects.latest]
      exact List.mem_append_right _ (List.mem_singleton_self _)
  have hattached : (t.hearOutcome generation result).attached .output = none := by
    change t.attached .output = none
    rw [ht.attached, hnone]
  have hrest (o : Except String Service.Outcome)
      (hreached : isReached (Client.readOutcome r).2 = true) :
      Tells (do
        if generation = t.generation then reportOutcome view generation o
        else write (supersededNote generation t.generation)
        conclude requested o.toOption) (t.hearOutcome generation result) := by
    split
    · refine tells_mute (isMute_reportOutcome hview _ _) fun _ u hu => ?_
      exact hconclude _ (by rw [hu.attached, hattached]) (hlearnt.congr hu.sameReport) hreached
    · refine tells_mute (isMute_write _) fun _ u hu => ?_
      exact hconclude _ (by rw [hu.attached, hattached]) (hlearnt.congr hu.sameReport) hreached
  cases result with
  | ok o => exact hrest (.ok o) (by rw [hread]; rfl)
  | error f =>
    cases f with
    | transport endpoint reason => exact hrest (.error reason) (by rw [hread]; rfl)
    | _ => exact .failed rfl r hlearnt (by rw [hread]; rfl) _

theorem tells_receive {reply : Reply} (hnone : s.attached .output = none)
    (h : Expects s generation reply.reaction) (requested : Bool) :
    Tells (receive reply (finishTransform view generation requested)
      (.outcome generation requested)) s := by
  unfold receive
  split
  · exact tells_finishTransform hview hnone h requested
  · exact ⟨generation, requested, reply.reaction, rfl, h⟩

/-- The request of the transform goes out, if it can be written. -/
theorem tells_callTransform (hnone : s.attached .output = none)
    (hsend : s.client.canSend .transform = true) (hmissing : missing? s.store = none)
    (requested : Bool) : Tells (callTransform view requested) s := by
  refine tells_get (tells_mute (isMute_write _) fun _ t ht => ?_)
  refine tells_mute (isMute_announce hview _) fun _ u hu => ?_
  have hadds := ht.trans hu
  have hsame := hadds.sameReport
  have hcan : u.client.canSend (Service.Call.transform s.request).endpoint = true := by
    rw [hadds.client]
    exact hsend
  unfold Tells
  rw [run_bind]
  cases hrequest : (Service.Call.transform s.request).request? with
  | none =>
    cases hfail : u.client.send u.server (.transform s.request) with
    | ok x =>
      rw [Client.request_of_send hfail] at hrequest
      cases hrequest
    | error e =>
      rw [run_send_of_error hfail]
      refine .refused rfl ?_ ?_ e
      · change missing? u.store = none
        rw [hsame.store, hmissing]
      · change Request.transform? u.request = none
        rw [request, hsame.store]
        exact hrequest
  | some request =>
    obtain ⟨out, reply, server, rfl, hok⟩ := Client.send_of_canSend hcan hrequest u.server
    rw [run_send hok]
    dsimp only
    have hexpects : Expects (record (.sent ⟨u.board.now, out⟩ reply)
        { u.noteAll (Service.Call.transform s.request).notes with server }) s.generation
          reply.reaction := by
      refine ⟨?_, hsame.generation.symm, reply, ?_, rfl⟩
      · change missing? u.store = none
        rw [hsame.store, hmissing]
      · exact lastReply?_sent _ (Client.endpoint_of_send hok)
    refine tells_receive hview ?_ hexpects requested
    change u.attached .output = none
    rw [hadds.attached, hnone]

/-- An event asks for a transform. -/
theorem tells_requestTransform (hnone : s.attached .output = none)
    (hsend : missing? s.store = none → s.client.canSend .transform = true) :
    Tells (requestTransform view) s := by
  refine tells_get (tells_mute (isMute_write _) fun _ t ht => tells_get ?_)
  have hstore := ht.sameReport.store
  cases hmissing : missing? t.store with
  | some reason =>
    refine tells_change (tells_mute (isMute_write _) fun _ u hu => ?_)
    refine tells_mute (isMute_announce hview _) fun _ v hv => ?_
    have hsame := (hu.trans hv).sameReport
    change ∀ answers, Ends true v (.ok answers)
    refine .warned rfl ?_ ?_
    · rw [hsame.store]
      change missing? t.store ≠ none
      simp [hmissing]
    · rw [hsame.warning]
      simp
  | none =>
    refine tells_change (tells_callTransform hview ?_ ?_ ?_ true)
    · change t.attached .output = none
      rw [ht.attached, hnone]
    · change t.client.canSend .transform = true
      rw [ht.client]
      exact hsend (by rw [← hstore, hmissing])
    · exact hmissing

end Act

/-! ## How the user stands then -/

/-- What is told when the user has gone on as far as possible. -/
def ToldLast (asks : Bool) (t : Session V) : Except Failure Course → Prop
  | .error f => Ends asks t (.error f)
  | .ok (.done answers) => Ends asks t (.ok answers)
  | .ok (.paused (.time _) next) => asks = true ∧ ∃ generation requested r answers,
      next = ⟨.outcome generation requested r, [], answers⟩ ∧ Expects t generation r
  | .ok (.paused (.activities _) _) => False

/-- With nothing more to be done than a stretch of work, that is what is told. -/
theorem toldLast_follow {stage : Stage} (h : Act.Tells (Act.goOn view stage) s)
    (answers : List Answer) :
    ToldLast true ((follow view [] stage answers).run s).2 ((follow view [] stage answers).run s).1 := by
  unfold Act.Tells at h
  rcases hrun : (Act.goOn view stage).run s with ⟨result, t⟩
  rw [hrun] at h
  cases result with
  | error f =>
    rw [run_follow_of_error [] answers hrun]
    exact h
  | ok progress =>
    cases progress with
    | done a =>
      rw [run_follow_of_done answers hrun]
      exact h _
    | paused pause next =>
      rw [run_follow_of_paused [] answers hrun]
      cases pause with
      | activities others => exact h.elim
      | time duration =>
        obtain ⟨generation, requested, r, rfl, hexpects⟩ := h
        exact ⟨rfl, generation, requested, r, answers, rfl, hexpects⟩

/-- How the user stands who asks for a transform at the end, or does not. -/
inductive Reports (asks : Bool) (s : Session V) : Prop
  | ended (result : Except Failure (List Answer)) (hover : ∀ k ∈ s.board.tasks, k.plan? = none)
      (hfinished : s.finished = [(0, result)]) (h : Ends asks s result)
  | waits (generation : Nat) (requested : Bool) (r : Reaction) (answers : List Answer)
      (hmem : ⟨0, .user 0, some ⟨.outcome generation requested r, [], answers⟩⟩ ∈ s.board.tasks)
      (hfinished : s.finished = []) (hasks : asks = true) (h : Expects s generation r)

/-- Only the activities and what has been told matter. -/
theorem Reports.congr (h : Reports asks s) (hst : SameReport s t) (hfinished : t.finished = s.finished)
    (hover : ∀ k ∈ t.board.tasks, k ∈ s.board.tasks)
    (hlive : ∀ k ∈ s.board.tasks, k.plan? ≠ none → k ∈ t.board.tasks) : Reports asks t := by
  cases h with
  | ended result hnone hlast h =>
    exact .ended result (fun k hk => hnone k (hover k hk)) (hfinished.trans hlast) (h.congr hst)
  | waits generation requested r answers hmem hlast hasks h =>
    exact .waits generation requested r answers (hlive _ hmem (by simp)) (hfinished.trans hlast) hasks
      (h.congr hst)

end Workbench.Session
