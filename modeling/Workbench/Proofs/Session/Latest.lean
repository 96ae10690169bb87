import Workbench.Proofs.Session.Attempt

/-!
# The latest transform wins

What comes of an attempt counts as long as no later one has begun. An attempt that was superseded
and one that is refused leave the documents as they are, and an attempt that is refused supersedes
none. So in the end it is the latest attempt that is shown, if its call ends at all.
-/
namespace Workbench.Session

open Document (Buffer)
open Service (Outcome Reaction)

variable {V : Type} {view : View V}

/-! ## Attempts that were superseded -/

theorem severity_readOutcome (r : Reaction) :
    ∀ n ∈ (Service.Client.readOutcome r).1, n.severity = .warning := by
  have hposted : ∀ n ∈ (Service.Client.readPosted .transform r).1, n.severity = .warning := by
    unfold Service.Client.readPosted Service.Client.unreachable
    cases r with
    | answer status body =>
      dsimp only
      split <;> simp [Note.warning]
    | _ => simp [Note.warning]
  have hnotes : (Service.Client.readOutcome r).1 = (Service.Client.readPosted .transform r).1 := by
    unfold Service.Client.readOutcome
    split
    · rename_i h
      rw [h]
      split <;> rfl
    · rename_i h
      rw [h]
  rw [hnotes]
  exact hposted

/-- An event leaves no note among these. -/
def HasNoEvent (notes : List Note) : Prop :=
  ∀ e, Bus.dispatchNote e ∉ notes ∧ Bus.dropNote e ∉ notes

theorem hasNoEvent_readOutcome (r : Reaction) :
    HasNoEvent (Service.Client.readOutcome r).1 := by
  refine fun e => ⟨fun hmem => ?_, fun hmem => ?_⟩
  · cases severity_readOutcome r _ hmem
  · cases severity_readOutcome r _ hmem

theorem hasNoEvent_superseded (generation latest : Nat) :
    HasNoEvent [supersededNote generation latest] := by
  refine fun e => ⟨fun hmem => ?_, fun hmem => ?_⟩
  · have hevent := congrArg Note.event (List.mem_singleton.mp hmem)
    simp [Bus.dispatchNote, supersededNote, Note.debug] at hevent
  · have hevent := congrArg Note.event (List.mem_singleton.mp hmem)
    simp [Bus.dropNote, supersededNote, Note.debug] at hevent

/-- Nothing has become of the documents and of the view, and no event was sent. -/
structure Spares (s t : Session V) : Prop where
  store : t.store = s.store
  view : t.view = s.view
  silent : ∃ notes, t.journal = s.journal ++ notes ∧ HasNoEvent notes

theorem spares_of_eq {s t : Session V} (hstore : t.store = s.store) (hview : t.view = s.view)
    (hjournal : t.journal = s.journal) : Spares s t :=
  ⟨hstore, hview, [], by rw [hjournal, List.append_nil], by simp [HasNoEvent]⟩

theorem Spares.trans {s t u : Session V} (h : Spares s t) (h' : Spares t u) : Spares s u := by
  obtain ⟨notes, hnotes, hsilent⟩ := h.silent
  obtain ⟨notes', hnotes', hsilent'⟩ := h'.silent
  refine ⟨h'.store.trans h.store, h'.view.trans h.view, notes ++ notes', ?_, fun e => ?_⟩
  · rw [hnotes', hnotes, List.append_assoc]
  · simp [hsilent e, hsilent' e]

theorem spares_syncEditor (s : Session V) (b : Buffer) (text : String) :
    Spares s (s.syncEditor b text) := by
  unfold syncEditor
  split
  · exact spares_of_eq rfl rfl rfl
  split
  · exact spares_of_eq rfl rfl rfl
  split
  · exact spares_of_eq rfl rfl rfl
  dsimp only
  split <;> exact spares_of_eq rfl rfl rfl

namespace Act

/-- What comes of an attempt that was superseded changes no document and sends no event. -/
theorem spares_finishTransform {s : Session V} {generation : Nat} (h : generation ≠ s.generation)
    (requested : Bool) (r : Reaction) :
    Spares s ((finishTransform view generation requested r).run s).2 := by
  have hnotes := hasNoEvent_readOutcome r
  unfold finishTransform
  generalize Service.Client.readOutcome r = reply at hnotes ⊢
  obtain ⟨notes, result⟩ := reply
  dsimp only at hnotes ⊢
  simp only [run_bind, run_change, run_get]
  have hgeneration : generation ≠ (s.noteAll notes).generation := h
  have hheard : Spares s ((s.noteAll notes).hearOutcome generation result) := by
    refine ⟨?_, rfl, notes, rfl, hnotes⟩
    rw [store_hearOutcome, if_neg hgeneration]
    rfl
  generalize hu : (s.noteAll notes).hearOutcome generation result = u at hheard ⊢
  have hreached : ((reached result).run u).2 = u := by
    unfold reached
    split <;> rfl
  rcases hr : (reached result).run u with ⟨_ | o, u'⟩
  · rw [hr] at hreached
    exact hreached ▸ hheard
  · rw [hr] at hreached
    dsimp only at hreached ⊢
    subst hreached
    rw [if_neg hgeneration]
    have hwritten : Spares s (u'.note (supersededNote generation (s.noteAll notes).generation)) :=
      hheard.trans ⟨rfl, rfl, _, rfl, hasNoEvent_superseded generation _⟩
    unfold conclude
    cases requested
    · exact hwritten
    · exact hwritten.trans (spares_syncEditor ..)

/-! ## Attempts that are refused -/

theorem run_transform_of_missing {s : Session V} {reason : String}
    (h : missing? s.store = some reason) :
    (transform view).run s = (.error (.precondition reason), s) := by
  unfold transform
  rw [run_bind, run_get]
  dsimp only
  rw [h]
  rfl

/-- An event that asks for a transform that is refused changes no document, sends no request and
takes no number. -/
theorem quiet_handleTransform {s : Session V} {reason : String}
    (h : missing? s.store = some reason) : Quiet s ((handleTransform view).run s).2 := by
  unfold handleTransform
  rw [run_bind, run_get]
  dsimp only
  rw [h]
  have hwarn : IsQuiet view (do
      change fun s : Session V => { s with lastWarning := some reason }
      write (.warning "Transform precondition not met" [("reason", .string reason)])
      announceNotice view reason .warning
      pure (Progress.done .nothing) : Act V Progress) := by
    refine IsQuiet.bind ?_ fun _ => (isQuiet_write _).bind fun _ =>
      (isQuiet_announceNotice _ _).bind fun _ => isQuiet_pure _
    exact isQuiet_change fun _ => ⟨⟨rfl, rfl, rfl, rfl, rfl⟩, rfl, rfl, rfl⟩
  exact (hwarn.still s).toQuiet

theorem quiet_requestTransform {s : Session V} {reason : String}
    (h : missing? s.store = some reason) : Quiet s ((requestTransform view).run s).2 := by
  have hrun : (requestTransform view).run s = (handleTransform view).run
      (s.note (Bus.dispatchNote .transformRequested)) := rfl
  have hnote : Quiet s (s.note (Bus.dispatchNote .transformRequested)) := ⟨rfl, rfl, rfl, rfl, rfl⟩
  rw [hrun]
  exact hnote.trans (quiet_handleTransform h)

end Act

/-! ## All attempts of a session -/

/-- What has become of the attempts in a session that was armed or not at first. -/
structure LastWins (armed : Bool) (s : Session V) : Prop where
  /-- The documents are what the history makes of them. -/
  store : s.store = ((Documents.new armed).after s.history).store
  /-- Attempts are numbered as they begin. -/
  numbered : begun s.history = List.range' 1 s.generation
  /-- An attempt ends once at most. -/
  once : (ended s.history).Nodup
  /-- It has begun before. -/
  hasBegun : ∀ ⦃before generation result after⦄,
    s.history = before ++ .answered generation result :: after → generation ∈ begun before
  /-- What comes of an attempt is applied if no later one has begun before. -/
  applied : ∀ ⦃before generation result after⦄,
    s.history = before ++ .answered generation result :: after → IsLatest before generation →
      (((Documents.new armed).after before).next (.answered generation result)).store =
        transformed result ((Documents.new armed).after before).store
  /-- If one has, the documents stay as they are. -/
  superseded : ∀ ⦃before generation result after⦄,
    s.history = before ++ .answered generation result :: after → ¬ IsLatest before generation →
      (((Documents.new armed).after before).next (.answered generation result)).store =
        ((Documents.new armed).after before).store
  /-- The results that are applied come in the order of their numbers. -/
  increasing : ∀ ⦃before g r between generation result after⦄,
    s.history = before ++ .answered g r :: (between ++ .answered generation result :: after) →
      IsLatest before g → IsLatest (before ++ .answered g r :: between) generation →
        g < generation
  /-- What came of the latest attempt is shown. -/
  output : ∀ ⦃answer result⦄, .answered s.generation result ∈ s.history →
    endsAs answer result = true →
      (s.store.outputText, s.store.outputStatus) = answeredOutput answer
  /-- How the last attempt went that was applied and succeeded is shown. -/
  metrics : ∃ last, LastSuccess s.history last ∧
    (s.store.executionTime, s.store.rating) = metricsOf last

theorem IsRecorded.lastWins {armed : Bool} {s : Session V} {H : Hands}
    (h : IsRecorded view (.new armed) (s, H)) : LastWins armed s := by
  obtain ⟨hdocuments, hpossible⟩ := h
  dsimp only at hdocuments hpossible
  have hlatest : s.generation = ((Documents.new armed).after s.history).latest :=
    congrArg Documents.latest hdocuments
  have hstore : s.store = ((Documents.new armed).after s.history).store :=
    congrArg Documents.store hdocuments
  -- whoever hears of an attempt has waited for it
  have hheard {before after : List Happening} {generation : Nat} {result : Except Failure Outcome}
      (hsplit : s.history = before ++ .answered generation result :: after) :
      generation ∈ begun before ∧ (IsLatest before generation ↔
        generation = ((Documents.new armed).after before).latest) := by
    obtain ⟨H', hbefore, hunderway⟩ := hpossible.answered hsplit
    have hnumbered := hbefore.isNumbered
    refine ⟨?_, hnumbered.isLatest_iff hunderway⟩
    obtain ⟨hone, hle⟩ := hnumbered.le generation (Multiset.mem_add.mpr (.inl hunderway))
    rw [hnumbered.begun, List.mem_range'_1]
    omega
  have hnumbered := hpossible.isNumbered
  have hshown := hpossible.isShown
  refine {
    store := hstore
    numbered := ?numbered
    once := ?once
    hasBegun := fun _ _ _ _ hsplit => (hheard hsplit).1
    applied := ?applied
    superseded := ?superseded
    increasing := ?increasing
    output := ?output
    metrics := ?metrics }
  case numbered =>
    rw [hlatest, hnumbered.begun]
  case once =>
    exact Multiset.coe_nodup.mp (Multiset.nodup_add.mp hnumbered.nodup).2.1
  case applied =>
    intro before generation result after hsplit h
    simp only [Documents.next, if_pos ((hheard hsplit).2.mp h)]
  case superseded =>
    intro before generation result after hsplit h
    simp only [Documents.next, if_neg fun heq => h ((hheard hsplit).2.mpr heq)]
  case increasing =>
    intro before g r between generation result after hsplit _ hlater
    have hsplit' : s.history =
        (before ++ .answered g r :: between) ++ .answered generation result :: after := by
      rw [hsplit, List.append_assoc, List.cons_append]
    have hearlier : .answered g r ∈ before ++ .answered g r :: between := by simp
    exact hpossible.lt_of_isLatest hsplit' hearlier hlater
  case output =>
    rw [hstore, hlatest]
    exact fun answer result hmem hends => hshown.shown answer result hmem hends
  case metrics =>
    obtain ⟨last, hlast, hmetrics⟩ := hpossible.lastSuccess
    refine ⟨last, hlast, ?_⟩
    rw [hstore]
    exact hmetrics

/-- What comes of an attempt at a transform counts if and only if no later one has begun before; if
one has, no document changes and no event is sent. An attempt that is refused changes no document,
sends nothing and takes no number. -/
theorem latest_transform_wins {settings : Settings} {window : Nat} {armed : Bool}
    {client : Service.Client} {server : Service.Server} {ownsClient watched : Bool} {v : V}
    {s : Session V}
    (hs : Run view (.new settings window armed client server ownsClient watched v) s) :
    LastWins armed s ∧
      (∀ (t : Session V) generation requested r, generation ≠ t.generation →
        Spares t ((Act.finishTransform view generation requested r).run t).2) ∧
      ∀ (t : Session V) reason, missing? t.store = some reason →
        (Act.transform view).run t = (.error (.precondition reason), t) ∧
          Quiet t ((Act.requestTransform view).run t).2 :=
  ⟨hs.isRecorded.lastWins,
    fun _ _ requested r h => Act.spares_finishTransform h requested r,
    fun _ _ h => ⟨Act.run_transform_of_missing h, Act.quiet_requestTransform h⟩⟩

/-- Did the attempt with this number come to this outcome? -/
def Happening.hasOutcome (generation : Nat) (o : Outcome) : Happening → Bool
  | .answered g (.ok o') => g = generation ∧ o' = o
  | _ => false

theorem mem_of_hasOutcome {history : List Happening} {generation : Nat} {o : Outcome}
    (h : history.any (·.hasOutcome generation o) = true) :
    .answered generation (.ok o) ∈ history := by
  obtain ⟨x, hmem, hx⟩ := List.any_eq_true.mp h
  unfold Happening.hasOutcome at hx
  split at hx
  · obtain ⟨rfl, rfl⟩ := of_decide_eq_true hx
    exact hmem
  · cases hx

/-- A session with two attempts at a transform, the second of which is answered first. -/
def overtakingSession : Session Unit :=
  let answer (result : String) : Reaction :=
    let body := "\x7b\"success\":true,\"result\":\"" ++ result ++ "\"\x7d"
    .answer 200 (body.toUTF8.toList.map UInt8.toNat)
  let server := easyServer.lineUp .transform [⟨2, answer "1"⟩, ⟨1, answer "2"⟩]
  let s := (machine blindView).rest 100
    ((localSession server 0 false).launch 0 [.edit .input "1", .edit .spec "[]"])
  (machine blindView).passTo 100 2 ((s.launch 1 [.requestTransform]).launch 2 [.requestTransform])

theorem latest_transform_wins_overtaking :
    ended overtakingSession.history = [2, 1] ∧
      begun overtakingSession.history = List.range' 1 overtakingSession.generation ∧
      (overtakingSession.store.outputText, overtakingSession.store.outputStatus) =
        answeredOutput (.ok { success := true, result := some "2" }) := by
  have hs : Run blindView _ overtakingSession :=
    .trans (.head (.launch _ 0 (by decide)) (Run.rest 100 _))
      (.head (.launch _ 1 (by decide)) (.head (.launch _ 2 (by decide)) (Run.passTo 100 2 _)))
  obtain ⟨hwins, -, -⟩ := latest_transform_wins hs
  have hanswered : .answered overtakingSession.generation
      (.ok { success := true, result := some "2" }) ∈ overtakingSession.history :=
    mem_of_hasOutcome (by decide +kernel)
  exact ⟨by decide +kernel, hwins.numbered, hwins.output hanswered rfl⟩

/-! ## Pending output -/

theorem answeredOutput_ne_transforming (answer : Except String Outcome) :
    (answeredOutput answer).2 ≠ .transforming := by
  unfold answeredOutput Document.Status.transforming
  split
  · split <;> simp
  · simp

/-- The output is pending as long as the latest attempt has come neither to an answer nor to a fault
of the transport, whether its call still is under way or has failed in another way. -/
theorem outputStatus_eq_transforming_iff {s : Session V} (hs : Reachable view s) :
    s.store.outputStatus = .transforming ↔ 0 < s.generation ∧
      ∀ answer result, .answered s.generation result ∈ s.history → endsAs answer result = false := by
  obtain ⟨armed, hdocuments, hpossible⟩ := hs.attained.isRecorded
  have hshown := hpossible.isShown
  dsimp only at hdocuments hshown
  rw [← hdocuments] at hshown
  obtain ⟨hnone, hpending, hanswer⟩ := hshown
  constructor
  · intro hstatus
    have hpos : 0 < s.generation := by
      refine Nat.pos_of_ne_zero fun hzero => ?_
      have hready := congrArg Prod.snd (hnone hzero)
      exact absurd (hstatus.symm.trans hready) (by decide)
    refine ⟨hpos, fun answer result hmem => ?_⟩
    cases hends : endsAs answer result with
    | false => rfl
    | true =>
      have houtput := congrArg Prod.snd (hanswer answer result hmem hends)
      exact absurd (houtput.symm.trans hstatus) (answeredOutput_ne_transforming answer)
  · exact fun ⟨hpos, hno⟩ => hpending hpos hno

/-- A session with an attempt whose answer is still to come. -/
def waitingSession : Session Unit :=
  let server := easyServer.lineUp .transform [⟨1, .timeout⟩]
  (machine blindView).rest 100
    ((localSession server 0 false).launch 0 [.edit .input "1", .edit .spec "[]", .requestTransform])

theorem outputStatus_eq_transforming_while_waiting :
    waitingSession.store.outputStatus = .transforming ∧ 0 < waitingSession.generation ∧
      ∀ answer result, .answered waitingSession.generation result ∈ waitingSession.history →
        endsAs answer result = false := by
  have hs : Reachable blindView waitingSession :=
    .run (.next (.new ..) (.launch _ 0 (by decide))) (Run.rest 100 _)
  have hstatus : waitingSession.store.outputStatus = .transforming := by decide +kernel
  exact ⟨hstatus, (outputStatus_eq_transforming_iff hs).mp hstatus⟩

/-- A transform whose request cannot be written has ended, and the output is still pending. -/
theorem transforming_after_refusal :
    ∃ s : Session Unit, Reachable blindView s ∧ Text.strip s.store.input.text ≠ "" ∧
      Text.strip s.store.spec.text ≠ "" ∧ s.generation = 1 ∧ s.board.activities.isEmpty = true ∧
        s.store.outputStatus = .transforming := by
  refine ⟨easySession 300000 [.edit .input "1", .edit .spec "NaN", .requestTransform],
    reachable_easySession 300000 _ (by decide), ?_, ?_, ?_, ?_, ?_⟩ <;> decide +kernel

end Workbench.Session
