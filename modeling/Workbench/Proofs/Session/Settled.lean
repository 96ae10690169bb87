import Workbench.Proofs.Session.Attended

/-!
# Settled sessions

Once everything has settled, each draft stands as the verdict on its text says, whatever happened
before and in whatever order the verdicts came.
-/
namespace Workbench.Session

open Document (Draft DraftState)
open Service (Verdict)

variable {V W : Type} {view : View V} {d : Draft} {text : String}

/-- Did a call end as the service answers: with this result, or unreached for this reason? -/
def endsAs {α : Type} [DecidableEq α] (answer : Except String α) : Except Failure α → Bool
  | .ok a =>
    match answer with
    | .ok b => a = b
    | .error _ => false
  | .error (.transport _ reason) =>
    match answer with
    | .ok _ => false
    | .error r => reason = r
  | .error _ => false

/-- If it is the end of a validation call, did the service answer by a function of the text? -/
def Happening.follows (judge : Draft → String → Except String Verdict) : Happening → Bool
  | .judged d text result => endsAs (judge d text) result
  | .refused (.validate _ _) _ => false
  | _ => true

/-- No timer is armed, no edit is to be applied and no validation runs. -/
def IsSettled (s : Session V) : Prop := s.isIdle = true ∧ s.pendingEdits = []

/-- What the detail of a draft begins with that could not be validated. -/
def faultPrefix : Draft → String
  | .input => "Error validating JSON: "
  | .spec => "Error validating specification: "

/-- How a draft with this text stands in the end. -/
def settledDraft (judge : Draft → String → Except String Verdict) (d : Draft) (text : String) :
    DraftState :=
  if Text.strip text = "" then
    match d with
    | .input => ⟨text, none, ⟨"Ready", .valid, none⟩⟩
    | .spec => ⟨text, none, ⟨"Required", .warning, none⟩⟩
  else
    match judge d text with
    | .ok v =>
      if v.valid then
        ⟨text, some text,
          if v.isWarning then ⟨"Valid", .warning, v.detail?⟩ else ⟨"Valid", .valid, none⟩⟩
      else ⟨text, none, ⟨"Error", .error, v.detail?⟩⟩
    | .error reason => ⟨text, none, ⟨"Validation Error", .error, some (faultPrefix d ++ reason)⟩⟩

theorem settledDraft_of_blank (judge : Draft → String → Except String Verdict)
    (h : Text.isBlank text = true) : settledDraft judge d text = freshDraft d text := by
  unfold settledDraft freshDraft
  rw [if_pos (Text.strip_eq_empty.mpr h), if_pos h]
  cases d <;> rfl

theorem settledDraft_of_judged {judge : Draft → String → Except String Verdict}
    {result : Except Failure Verdict} (h : Text.isBlank text = false)
    (hresult : endsAs (judge d text) result = true) :
    settledDraft judge d text = judgedDraft d (freshDraft d text) result := by
  have hstrip : ¬ Text.strip text = "" := fun hempty => by
    rw [Text.strip_eq_empty.mp hempty] at h
    cases h
  unfold settledDraft
  rw [if_neg hstrip]
  cases result with
  | ok v =>
    cases hjudge : judge d text with
    | ok v' =>
      obtain rfl : v = v' := by simpa [endsAs, hjudge] using hresult
      rfl
    | error reason => simp [endsAs, hjudge] at hresult
  | error f =>
    obtain ⟨endpoint, reason, rfl⟩ : ∃ endpoint reason, f = .transport endpoint reason := by
      cases f <;> first | exact ⟨_, _, rfl⟩ | cases hresult
    cases hjudge : judge d text with
    | ok v => simp [endsAs, hjudge] at hresult
    | error r =>
      obtain rfl : reason = r := by simpa [endsAs, hjudge] using hresult
      cases d <;> rfl

theorem isBroken_of_follows {judge : Draft → String → Except String Verdict} {x : Happening}
    (h : x.follows judge = true) : x.isBroken = false := by
  cases x with
  | judged d text result =>
    cases result with
    | ok v => rfl
    | error f => cases f <;> first | rfl | cases h
  | refused call f =>
    cases call with
    | validate d text => cases h
    | _ => rfl
  | _ => rfl

/-- In a settled session nobody waits for a verdict, unless it was taken away. -/
theorem Reachable.not_validating {s : Session V} (hs : Reachable view s) (hsettled : IsSettled s)
    (hloss : ¬ HasLoss s.history) (d : Draft) : (s.store.draft d).status ≠ .validating := by
  intro hstatus
  obtain ⟨hpending, hvalidations⟩ : s.scheduler.pending = [] ∧ s.validations = [] := by
    simpa [isIdle] using hsettled.1
  obtain hkey | hunder | h := hs.attained.isAwaited d hstatus
  · rw [Coalescing.Scheduler.keys, hpending] at hkey
    cases hkey
  · obtain ⟨a, ha, -⟩ := exists_validates hunder
    rw [hvalidations] at ha
    cases ha
  · exact hloss h

/-- Where every validation is answered by a function of the text and no timer was disarmed by
closing the session, a settled draft stands as its text and the answer for it say. -/
theorem Reachable.settled {s : Session V} (hs : Reachable view s)
    {judge : Draft → String → Except String Verdict}
    (hjudge : ∀ x ∈ s.history, x.follows judge = true) (hdropped : ∀ x ∈ s.history, x.dropped = [])
    (hsettled : IsSettled s) (d : Draft) :
    s.store.draft d = settledDraft judge d (s.store.draft d).text := by
  have hloss : ¬ HasLoss s.history := by
    rintro ⟨x, hmem, h | h⟩
    · exact h (hdropped x hmem)
    · rw [isBroken_of_follows (hjudge x hmem)] at h
      cases h
  have hstatus := hs.not_validating hsettled hloss d
  obtain ⟨text, part, hsince, hfresh | ⟨result, hmem, -, hblank, hjudged⟩⟩ := hs.attained.standing d
  · rw [hfresh] at hstatus ⊢
    cases hblank : Text.isBlank text with
    | true => exact (settledDraft_of_blank judge hblank).symm
    | false => simp [freshDraft, hblank] at hstatus
  · have hmem' : .judged d text result ∈ s.history := by
      obtain ⟨heq, -⟩ | ⟨before, time, heq⟩ := hsince.start
      · rw [heq]
        exact hmem
      · rw [heq]
        exact List.mem_append_right _ (List.mem_cons_of_mem _ hmem)
    rw [hjudged, text_judgedDraft]
    exact (settledDraft_of_judged hblank (hjudge _ hmem')).symm

/-- Settled drafts are a function of their texts and the verdicts on them alone; so two settled
sessions with the same texts have the same drafts. -/
theorem settled_confluence {view' : View W} {s : Session V} {t : Session W}
    (judge : Draft → String → Except String Verdict)
    (hs : Reachable view s) (hsjudge : ∀ x ∈ s.history, x.follows judge = true)
    (hsdropped : ∀ x ∈ s.history, x.dropped = []) (hssettled : IsSettled s)
    (ht : Reachable view' t) (htjudge : ∀ x ∈ t.history, x.follows judge = true)
    (htdropped : ∀ x ∈ t.history, x.dropped = []) (htsettled : IsSettled t) :
    (∀ d, s.store.draft d = settledDraft judge d (s.store.draft d).text) ∧
      ∀ d, (s.store.draft d).text = (t.store.draft d).text → s.store.draft d = t.store.draft d := by
  refine ⟨fun d => hs.settled hsjudge hsdropped hssettled d, fun d htext => ?_⟩
  rw [hs.settled hsjudge hsdropped hssettled d, ht.settled htjudge htdropped htsettled d, htext]

/-- A session that edits its input once, and one that comes to the same text by a detour. -/
theorem settled_confluence_after_detour :
    let s := easySession 0 [.edit .input "1"]
    let t := easySession 0 [.edit .input "1", .edit .input "x", .validate .input "x",
      .edit .input "1"]
    (s.store.draft .input).text = (t.store.draft .input).text ∧
      s.store.draft .input = t.store.draft .input := by
  have htext : ((easySession 0 [.edit .input "1"]).store.draft .input).text =
      ((easySession 0 [.edit .input "1", .edit .input "x", .validate .input "x",
        .edit .input "1"]).store.draft .input).text := by decide +kernel
  have hs := reachable_easySession 0 [.edit .input "1"] (by decide)
  have ht := reachable_easySession 0 [.edit .input "1", .edit .input "x", .validate .input "x",
    .edit .input "1"] (by decide)
  refine ⟨htext, ?_⟩
  exact (settled_confluence (fun _ _ => .ok { valid := true })
    hs (by decide +kernel) (by decide +kernel) ⟨by decide +kernel, by decide +kernel⟩
    ht (by decide +kernel) (by decide +kernel) ⟨by decide +kernel, by decide +kernel⟩).2 .input htext

/-- Closing a session disarms the timer of an input that then waits forever. -/
theorem not_settled_after_close :
    ∃ s : Session Unit, Reachable blindView s ∧
      (∀ x ∈ s.history, x.follows (fun _ _ => .ok { valid := true }) = true) ∧ IsSettled s ∧
        s.store.draft .input ≠
          settledDraft (fun _ _ => .ok { valid := true }) .input (s.store.draft .input).text := by
  refine ⟨easySession 300000 [.edit .input "1", .close], ?_, ?_, ⟨?_, ?_⟩, ?_⟩
  · exact reachable_easySession 300000 _ (by decide)
  · decide +kernel
  · decide +kernel
  · decide +kernel
  · decide +kernel

end Workbench.Session
