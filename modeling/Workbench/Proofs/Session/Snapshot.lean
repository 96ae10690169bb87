import Workbench.Proofs.Session.Standing
import Workbench.Proofs.Text.Blank

/-!
# Snapshots

What a snapshot says: the draft still holds the text, and since it got the text the service has
found just this text valid.
-/
namespace Workbench.Session

open Document (Draft)

variable {V : Type} {view : View V}

/-- A verdict is what an earlier request for it brought back. -/
theorem Reachable.isReply {s : Session V} (hs : Reachable view s) {d : Draft} {text : String}
    {result : Except Failure Service.Verdict} {before after : List Happening}
    (h : s.history = before ++ .judged d text result :: after) :
    ∃ r, IsReply before d text r ∧ (Service.Client.readVerdict d r).2 = result :=
  (hs.attained.isGrounded.founded before d text result ⟨after, by simp [h]⟩).2

theorem snapshot_judgedDraft {d : Draft} {text snapshot : String}
    {result : Except Failure Service.Verdict}
    (h : (judgedDraft d (freshDraft d text) result).snapshot = some snapshot) :
    snapshot = text ∧ ∃ verdict, result = .ok verdict ∧ verdict.valid = true := by
  unfold judgedDraft at h
  split at h
  case h_1 verdict =>
    split at h
    case isTrue hvalid => exact ⟨(Option.some.inj h).symm, verdict, rfl, hvalid⟩
    case isFalse => cases h
  case h_2 => cases h
  case h_3 => cases h

/-- A draft with a snapshot holds exactly that text, which is not blank, and a verdict that came
after the last edit says that it is valid: the reply to a request that went to the draft's own
endpoint with this text. -/
theorem snapshot_provenance {s : Session V} (hs : Reachable view s) (d : Draft) {text : String}
    (h : (s.store.draft d).snapshot = some text) :
    (s.store.draft d).text = text ∧ Text.strip text ≠ "" ∧ ∃ before time between verdict after,
      s.history =
          before ++ .edited time d text :: between ++ .judged d text (.ok verdict) :: after ∧
        IsUnchanged d (between ++ .judged d text (.ok verdict) :: after) ∧ verdict.valid = true ∧
          ∃ r, IsReply (before ++ .edited time d text :: between) d text r ∧
            (Service.Client.readVerdict d r).2 = .ok verdict := by
  obtain ⟨latest, part, hsince, hfresh | ⟨result, hmem, -, hblank, hjudged⟩⟩ :=
    hs.attained.standing d
  · rw [hfresh] at h
    cases h
  · rw [hjudged] at h ⊢
    obtain ⟨rfl, verdict, rfl, hvalid⟩ := snapshot_judgedDraft h
    have hstrip : Text.strip text ≠ "" := fun hempty => by
      rw [Text.strip_eq_empty.mp hempty] at hblank
      cases hblank
    refine ⟨text_judgedDraft .., hstrip, ?_⟩
    obtain ⟨between, after, rfl⟩ := List.append_of_mem hmem
    obtain ⟨-, rfl⟩ | ⟨before, time, hhistory⟩ := hsince.start
    · cases hblank
    · have heq : s.history = before ++ .edited time d text :: between ++
          .judged d text (.ok verdict) :: after := by simpa using hhistory
      refine ⟨before, time, between, verdict, after, heq, hsince.unchanged, hvalid, ?_⟩
      exact hs.isReply heq

/-- An input that was put in twice before it was found valid. -/
theorem snapshot_provenance_after_edits :
    let s := easySession 0 [.edit .input "1", .edit .input "2"]
    (s.store.draft .input).snapshot = some "2" ∧
      ∃ before time between verdict after,
        s.history = before ++ .edited time .input "2" :: between ++
          .judged .input "2" (.ok verdict) :: after ∧
        IsUnchanged .input (between ++ .judged .input "2" (.ok verdict) :: after) ∧
        verdict.valid = true ∧
        ∃ r, IsReply (before ++ .edited time .input "2" :: between) .input "2" r ∧
          (Service.Client.readVerdict .input r).2 = .ok verdict := by
  have hsnapshot : ((easySession 0 [.edit .input "1", .edit .input "2"]).store.draft
      .input).snapshot = some "2" := by decide +kernel
  have hs := reachable_easySession 0 [.edit .input "1", .edit .input "2"] (by decide)
  exact ⟨hsnapshot, (snapshot_provenance hs .input hsnapshot).2.2⟩

end Workbench.Session
