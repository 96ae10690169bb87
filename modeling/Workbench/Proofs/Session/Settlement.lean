import Workbench.Proofs.Session.Latest
import Workbench.Proofs.Session.Settling

/-!
# What a settled session tells

When everything has been done, each text that is not blank has been asked for once, a draft has a
snapshot just if its text was found valid, and the output is what came of the last transform.
-/
namespace Workbench.Session

open Document (Draft Store)
open Service (Client Endpoint Outcome Reaction Reply Request)

variable {V : Type} {view : View V} {s : Session V} {given : Draft → Option String} {armed asks : Bool}
  {d : Draft} {text : String}

/-- The service has found exactly this text of the draft valid. -/
def FoundValid (history : List Happening) (d : Draft) (text : String) : Prop :=
  ∃ r v, IsReply history d text r ∧ (Client.readVerdict d r).2 = .ok v ∧ v.valid = true

/-- The last request for a transform was answered by this outcome. -/
def LastOutcome (history : List Happening) (o : Outcome) : Prop :=
  ∃ reply, lastReply? .transform history = some reply ∧ (Client.readOutcome reply.reaction).2 = .ok o

namespace HasSettled

/-- No request for a verdict is left to be sent, or to be answered. -/
theorem requestsIn_validate (h : HasSettled given armed asks s) (d : Draft) :
    requestsIn (.validate d) s.history = (textsOf given d).map (Request.validate d) := by
  have hlength : (requestsIn (.validate d) s.history).length = (textsOf given d).length := by
    have hasked := h.keeps.asked d
    have hpending : s.scheduler.isPending d = false := by
      have hwork : s.scheduler.work? d = none :=
        Coalescing.Scheduler.work?_eq_none.mpr (by simp [h.idle])
      rw [Coalescing.Scheduler.isPending, hwork]
      rfl
    unfold outstanding at hasked
    rw [hpending] at hasked
    simpa [Hands.total] using hasked
  have hone := length_textsOf_le given d
  cases htexts : textsOf given d with
  | nil =>
    rw [htexts, List.length_nil, List.length_eq_zero_iff] at hlength
    rw [hlength]
    rfl
  | cons text rest =>
    -- the only text is that of the only request
    obtain rfl : rest = [] := by
      rw [htexts, List.length_cons] at hone
      exact List.length_eq_zero_iff.mp (by omega)
    rw [htexts] at hlength
    obtain ⟨r, hrequests⟩ := List.length_eq_one_iff.mp hlength
    obtain ⟨text', hmem, rfl⟩ := h.keeps.sent d r (by simp [hrequests])
    rw [htexts, List.mem_singleton] at hmem
    rw [hrequests, hmem]
    rfl

/-- A draft has a snapshot just if it was given a text that was found valid. -/
theorem snapshot_isSome_iff (h : HasSettled given armed asks s) (d : Draft) :
    (s.store.draft d).snapshot.isSome = true ↔ ∃ text ∈ textsOf given d, FoundValid s.history d text := by
  have hrequests := h.requestsIn_validate d
  have hone : (requestsIn (.validate d) s.history).length ≤ 1 := by
    rw [hrequests, List.length_map]
    exact length_textsOf_le given d
  rw [(h.keeps.hearing d).snapshot_isSome_iff (fun _ _ _ hmem => by cases hmem) hone]
  constructor
  · rintro ⟨text', r, v, ⟨sent, reply, hmem, hrequest, hreaction⟩, hread, hvalid⟩
    have hasked : Request.validate d text' ∈ requestsIn (.validate d) s.history :=
      IsReply.mem_requestsIn ⟨sent, reply, hmem, hrequest, hreaction⟩
    rw [hrequests, List.mem_map] at hasked
    obtain ⟨text, htext, heq⟩ := hasked
    exact ⟨text, htext, r, v, ⟨sent, reply, hmem, hrequest.trans heq.symm, hreaction⟩, hread, hvalid⟩
  · rintro ⟨text, -, r, v, hreply, hread, hvalid⟩
    exact ⟨text, r, v, hreply, hread, hvalid⟩

/-- Both drafts are valid just if both were given texts that were found valid. -/
theorem bothValid_iff (h : HasSettled given armed asks s) :
    s.store.bothValid = true ↔ ∀ d, ∃ text ∈ textsOf given d, FoundValid s.history d text := by
  constructor
  · intro hboth d
    obtain ⟨text, hsnapshot, -⟩ := Store.bothValid_eq_true hboth d
    exact (h.snapshot_isSome_iff d).mp (by rw [hsnapshot]; rfl)
  · intro hfound
    have hsnapshot (d : Draft) : s.store.hasSnapshot d = true := by
      obtain ⟨text, hsome⟩ := Option.isSome_iff_exists.mp ((h.snapshot_isSome_iff d).mpr (hfound d))
      have hblank := (mem_textsOf.mp (h.keeps.valid d text hsome)).2
      unfold Store.hasSnapshot
      rw [hsome]
      by_contra hempty
      simp only [Bool.not_eq_true, Bool.not_eq_false', String.isEmpty_iff] at hempty
      rw [hempty] at hblank
      exact absurd hblank (by decide)
    rw [Store.bothValid, hsnapshot, hsnapshot]
    rfl

/-- The requests for a transform that have gone out. -/
theorem requestsIn_transform (h : HasSettled given armed asks s) :
    requestsIn .transform s.history =
      (if armed && s.store.bothValid then (Request.transform? (givenRequest given)).toList else []) ++
        closingCalls given asks := by
  rw [h.keeps.calls, isPrimed, h.keeps.armed]

end HasSettled

/-! ## The output -/

theorem Expects.lastOutcome_iff {generation : Nat} {r : Reaction} (h : Expects s generation r)
    {o : Outcome} : LastOutcome s.history o ↔ (Client.readOutcome r).2 = .ok o := by
  obtain ⟨reply, hlast, rfl⟩ := h.sent
  constructor
  · rintro ⟨reply', hlast', hread⟩
    rw [hlast] at hlast'
    cases hlast'
    exact hread
  · exact fun hread => ⟨reply, hlast, hread⟩

/-- The output is what came of the last transform. -/
theorem Learnt.output (hs : Reachable view s) {r : Reaction} (h : Learnt s r)
    {answer : Except String Outcome} (hends : endsAs answer (Client.readOutcome r).2 = true) :
    (s.store.outputText, s.store.outputStatus) = answeredOutput answer := by
  obtain ⟨armed, hrecorded⟩ := hs.attained.isRecorded
  exact hrecorded.lastWins.output h.answered hends

/-- The last transform left this as its output: nothing was missing, and it succeeded. -/
structure Delivers (s : Session V) (text : String) : Prop where
  unwarned : s.lastWarning = none
  valid : s.store.outputStatus.level = .valid
  output : s.store.outputText = text

theorem Learnt.delivers_iff (hs : Reachable view s) {r : Reaction} (h : Learnt s r)
    (hreached : isReached (Client.readOutcome r).2 = true) (hunwarned : s.lastWarning = none) :
    Delivers s text ↔
      ∃ o, LastOutcome s.history o ∧ o.success = true ∧ o.result.getD "" = text := by
  simp only [h.lastOutcome_iff]
  have houtput (answer : Except String Outcome)
      (hends : endsAs answer (Client.readOutcome r).2 = true) := h.output hs hends
  cases hread : (Client.readOutcome r).2 with
  | ok o =>
    rw [hread] at houtput
    have hshown := houtput (.ok o) (by simp [endsAs])
    unfold answeredOutput at hshown
    dsimp only at hshown
    cases hsuccess : o.success with
    | true =>
      rw [hsuccess, if_pos rfl, Prod.mk.injEq] at hshown
      constructor
      · exact fun hd => ⟨o, rfl, hsuccess, hshown.1.symm.trans hd.output⟩
      · rintro ⟨o', ho', -, rfl⟩
        cases ho'
        exact ⟨hunwarned, by rw [hshown.2], hshown.1⟩
    | false =>
      rw [hsuccess, if_neg Bool.false_ne_true, Prod.mk.injEq] at hshown
      constructor
      · intro hd
        have hvalid := hd.valid
        rw [hshown.2] at hvalid
        cases hvalid
      · rintro ⟨o', ho', hsuccess', -⟩
        cases ho'
        rw [hsuccess] at hsuccess'
        cases hsuccess'
  | error f =>
    rw [hread] at houtput hreached
    constructor
    · intro hd
      cases f with
      | transport endpoint reason =>
        have hshown := houtput (.error reason) (by simp [endsAs])
        have hvalid := hd.valid
        rw [(Prod.mk.inj hshown).2] at hvalid
        cases hvalid
      | _ => cases hreached
    · rintro ⟨o, ho, -⟩
      cases ho

namespace HasSettled

/-- Where a text is missing, or the request cannot be written, none goes out. -/
theorem not_lastOutcome (h : HasSettled given armed true s)
    (hnone : missing? s.store ≠ none ∨ Request.transform? s.request = none) (o : Outcome) :
    ¬ LastOutcome s.history o := by
  have hrequests : requestsIn .transform s.history = [] := by
    have haccounts := h.keeps.toAccounts
    rw [h.keeps.calls]
    obtain hmissing | hrefused := hnone
    · have hprimed : s.isPrimed = false := by
        by_contra hprimed
        exact hmissing (haccounts.missing?_eq_none (by simpa using hprimed))
      have hsome : (missing? s.store).isNone = false := by
        rw [Option.isNone_eq_false_iff, Option.isSome_iff_ne_none]
        exact hmissing
      rw [haccounts.missing?_eq] at hsome
      rw [hprimed, closingCalls, hsome]
      rfl
    · rw [haccounts.request_eq] at hrefused
      rw [closingCalls, hrefused]
      split <;> split <;> rfl
  rintro ⟨reply, hlast, -⟩
  rw [lastReply?_eq_none hrequests] at hlast
  cases hlast

/-- The user comes to an end with an output just if the last transform succeeded, and that is its
result. -/
theorem delivers_iff (h : HasSettled given armed true s) (text : String) (hs : Reachable view s) :
    (∃ answers, s.finished = [(0, .ok answers)]) ∧ Delivers s text ↔
      ∃ o, LastOutcome s.history o ∧ o.success = true ∧ o.result.getD "" = text := by
  obtain ⟨result, hfinished, hends⟩ := h.ended
  rw [hfinished]
  cases hends with
  | rests h => cases h
  | warned _ hmissing hwarning answers =>
    constructor
    · exact fun hd => absurd hd.2.unwarned hwarning
    · rintro ⟨o, ho, -⟩
      exact absurd ho (h.not_lastOutcome (.inl hmissing) o)
  | refused _ _ hsent f =>
    constructor
    · rintro ⟨⟨answers, heq⟩, -⟩
      cases heq
    · rintro ⟨o, ho, -⟩
      exact absurd ho (h.not_lastOutcome (.inr hsent) o)
  | done _ r hlearnt hreached answers =>
    have hunwarned := h.keeps.warned hlearnt.complete
    rw [← hlearnt.delivers_iff hs hreached hunwarned]
    exact ⟨fun hd => hd.2, fun hd => ⟨⟨answers, rfl⟩, hd⟩⟩
  | failed _ r hlearnt hreached f =>
    constructor
    · rintro ⟨⟨answers, heq⟩, -⟩
      cases heq
    · rintro ⟨o, ho, -⟩
      rw [hlearnt.lastOutcome_iff] at ho
      rw [ho] at hreached
      cases hreached

end HasSettled

end Workbench.Session
