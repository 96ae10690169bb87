import Workbench.Proofs.Session.Awaiting

/-!
# No verdict is lost

How the text of a draft, its status, its snapshot, its timer and the validations that run belong
together in every state of an open session: no draft waits for a verdict that nobody delivers.
-/
namespace Workbench.Session

open Coalescing (Scheduler)
open Document (Draft DraftState Status)
open Service (Verdict)
open Turn (Activity Job)

variable {V : Type} {view : View V} {d : Draft} {text : String}

/-- The activity validates the text of the draft and has not ended. -/
def Validates (a : Activity Role Plan) (d : Draft) (text : String) : Prop :=
  ∃ plan, a.phase.plan? = some plan ∧
    (plan.stage = .start (.validate d.buffer text) ∨ ∃ r, plan.stage = .verdict d text r)

/-- What is called the status of a blank draft. -/
def blankLabel : Draft → String
  | .input => "Ready"
  | .spec => "Required"

/-- A draft with all that belongs to it. -/
structure IsAttended (s : Session V) (d : Draft) : Prop where
  /-- The status of a blank text, and only that, says so. -/
  blank : Text.strip (s.store.draft d).text = "" ↔
    (s.store.draft d).status.label = blankLabel d
  /-- Nothing is to be said of a blank text. -/
  still : Text.strip (s.store.draft d).text = "" →
    (s.store.draft d).snapshot = none ∧ d ∉ s.scheduler.keys
  /-- There is at most one timer, on the agenda too, and it is for the text as it is. -/
  timer : (s.scheduler.pending.filter (·.1 = d) = [] ∧ s.board.jobs.count (.fire d) = 0) ∨
    (s.scheduler.pending.filter (·.1 = d) = [(d, (s.store.draft d).text)] ∧
      s.board.jobs.count (.fire d) = 1 ∧ Text.strip (s.store.draft d).text ≠ "")
  /-- A draft that waits has no snapshot, and its verdict will come. -/
  waiting : (s.store.draft d).status.label = "Validating..." →
    (s.store.draft d).snapshot = none ∧
      (d ∈ s.scheduler.keys ∨ ∃ a ∈ s.validations, Validates a d (s.store.draft d).text)
  /-- A draft is called valid if and only if it has a snapshot. -/
  valid : (s.store.draft d).status.label = "Valid" ↔ (s.store.draft d).snapshot.isSome

theorem stage_of_text? {stage : Stage} (h : stage.hand.text? = some (d, text)) :
    stage = .start (.validate d.buffer text) ∨ ∃ r, stage = .verdict d text r := by
  cases stage with
  | start a =>
    obtain hfree | ⟨b, e, text', rfl, hhand⟩ := hand_start a
    · rw [hfree] at h
      cases h
    · rw [hhand] at h
      cases h
      cases b <;> simp [Stage.hand, Document.Buffer.draft?] at hhand
      · obtain rfl := hhand
        exact .inl rfl
      · obtain rfl := hhand
        exact .inl rfl
  | verdict e text' r =>
    cases h
    exact .inr ⟨r, rfl⟩
  | _ => cases h

/-- A validation that is under way is among the activities. -/
theorem exists_validates {s : Session V} (h : s.hands.IsUnderway d text) :
    ∃ a ∈ s.validations, Validates a d text := by
  obtain ⟨k, hmem, htext⟩ := h
  obtain ⟨-, t, ht, hrole, plan, hplan, rfl⟩ := Hands.mem_ofTasks.mp hmem
  obtain ⟨a, ha, rfl⟩ := List.mem_map.mp ht
  have hrole' : a.role = .validation := hrole
  refine ⟨a, ?_, plan, hplan, stage_of_text? htext⟩
  exact List.mem_filter.mpr ⟨ha, by simp [hrole']⟩

/-- The ways in which a draft can stand. -/
inductive Stands (d : Draft) : DraftState → Prop
  | blank (text : String) (h : Text.isBlank text = true) : Stands d ⟨text, none, .ofBlank d⟩
  | waiting (text : String) (h : Text.isBlank text = false) : Stands d ⟨text, none, .validating⟩
  | valid (text : String) (h : Text.isBlank text = false) (v : Verdict) :
      Stands d ⟨text, some text, validStatus v⟩
  | invalid (text : String) (h : Text.isBlank text = false) (v : Verdict) :
      Stands d ⟨text, none, .error "Error" v.detail?⟩
  | unreached (text : String) (h : Text.isBlank text = false) (reason : String) :
      Stands d ⟨text, none, .error "Validation Error" (some (faultDetail d reason))⟩

theorem IsFounded.stands {history : List Happening} (h : IsFounded history) (d : Draft) :
    Stands d (draftAfter d history) := by
  obtain ⟨text, part, -, hfresh | ⟨result, -, hheard, hblank, hjudged⟩⟩ := h.standing d
  · rw [hfresh, freshDraft]
    cases hblank : Text.isBlank text with
    | true => exact .blank text hblank
    | false => exact .waiting text hblank
  · rw [hjudged]
    cases result with
    | ok v =>
      unfold judgedDraft
      dsimp only
      split
      · exact .valid text hblank v
      · exact .invalid text hblank v
    | error f =>
      obtain ⟨endpoint, reason, rfl⟩ := Failure.isTransport_iff.mp hheard
      exact .unreached text hblank reason

theorem Attained.stands {x : Session V × Hands} (hx : Attained view x) (d : Draft) :
    Stands d (x.1.store.draft d) := by
  rw [hx.draft_eq]
  exact hx.isGrounded.founded.stands d

/-- The draft holds the text, which is not blank and was found valid. -/
structure IsValidated (st : DraftState) (text : String) : Prop where
  holds : st.text = text
  snapshot : st.snapshot = some text
  notBlank : Text.strip text ≠ ""

/-- Where a transform is to start by itself, each draft was found valid as it is. -/
theorem IsFounded.validated {history : List Happening} (h : IsFounded history) {armed : Bool}
    (hprimed : ((Documents.new armed).after history).isPrimed = true) (d : Draft) :
    ∃ text, IsValidated (((Documents.new armed).after history).store.draft d) text := by
  simp only [Documents.isPrimed, Bool.and_eq_true] at hprimed
  obtain ⟨snapshot, hsnapshot, -⟩ := Document.Store.bothValid_eq_true hprimed.2 d
  have hstands := h.stands d
  rw [draft_after_new] at hsnapshot ⊢
  generalize draftAfter d history = st at hsnapshot hstands ⊢
  cases hstands with
  | valid text hblank v => exact ⟨text, rfl, rfl, by simp [Text.strip_eq_empty, hblank]⟩
  | _ => cases hsnapshot

theorem missing?_of_not_blank {st : Document.Store}
    (h : ∀ d, Text.isBlank (st.draft d).text = false) : missing? st = none := by
  have hinput := h .input
  have hspec := h .spec
  unfold Document.Store.draft at hinput hspec
  simp [missing?, hinput, hspec]

/-- There is then nothing missing for a transform. -/
theorem IsFounded.missing?_eq_none {history : List Happening} (h : IsFounded history) {armed : Bool}
    (hprimed : ((Documents.new armed).after history).isPrimed = true) :
    missing? ((Documents.new armed).after history).store = none := by
  refine missing?_of_not_blank fun d => ?_
  obtain ⟨text, rfl, -, hblank⟩ := h.validated hprimed d
  simpa [Text.strip_eq_empty] using hblank

theorem label_validStatus (v : Verdict) : (validStatus v).label = "Valid" := by
  unfold validStatus
  split <;> rfl

theorem label_ofBlank (d : Draft) : (Status.ofBlank d).label = blankLabel d := by
  cases d <;> rfl

/-- The label of a draft tells whether its text is blank and whether there is a snapshot. -/
theorem Stands.labels {st : DraftState} (h : Stands d st) :
    (Text.strip st.text = "" ↔ st.status.label = blankLabel d) ∧
      (Text.strip st.text = "" → st.snapshot = none) ∧
      (st.status.label = "Validating..." → st.snapshot = none ∧ st.status = .validating) ∧
      (st.status.label = "Valid" ↔ st.snapshot.isSome) := by
  have hlabels : blankLabel d ≠ "Validating..." ∧ blankLabel d ≠ "Valid" ∧
      blankLabel d ≠ "Error" ∧ blankLabel d ≠ "Validation Error" := by
    cases d <;> decide
  obtain ⟨hwaiting, hvalid, herror, hunreached⟩ := hlabels
  simp only [Text.strip_eq_empty]
  cases h with
  | blank text hblank => simp [hblank, label_ofBlank, hwaiting, hvalid]
  | waiting text hblank => simp [hblank, Status.validating, hwaiting.symm]
  | valid text hblank v => simp [hblank, label_validStatus, hvalid.symm]
  | invalid text hblank v => simp [hblank, Status.error, herror.symm]
  | unreached text hblank reason => simp [hblank, Status.error, hunreached.symm]

/-- The timers of a draft are those of its text, and there is one on the agenda for each of them. -/
theorem Reachable.timer {s : Session V} (hs : Reachable view s) (d : Draft) :
    (s.scheduler.pending.filter (·.1 = d) = [] ∧ s.board.jobs.count (.fire d) = 0) ∨
      (s.scheduler.pending.filter (·.1 = d) = [(d, (s.store.draft d).text)] ∧
        s.board.jobs.count (.fire d) = 1 ∧ Text.strip (s.store.draft d).text ≠ "") := by
  obtain ⟨hnodup, hfires⟩ := hs.isOrderly.tallies
  have hlength : (s.scheduler.pending.filter (·.1 = d)).length = s.scheduler.keys.count d := by
    rw [Scheduler.keys, List.count, List.countP_map, List.countP_eq_length_filter]
    rfl
  rw [hfires, ← hlength]
  by_cases hmem : d ∈ s.scheduler.keys
  · have hone := hlength.trans (List.count_eq_one_of_mem hnodup hmem)
    obtain ⟨⟨e, text⟩, hsingle⟩ := List.length_eq_one_iff.mp hone
    have hentry : (e, text) ∈ s.scheduler.pending.filter (·.1 = d) := by simp [hsingle]
    obtain ⟨hpending, he⟩ := List.mem_filter.mp hentry
    obtain rfl : e = d := by simpa using he
    obtain ⟨hblank, htext⟩ := hs.attained.isGrounded.waiting e text hpending
    refine .inr ⟨by rw [hsingle, htext], hone, ?_⟩
    rw [Ne, Text.strip_eq_empty, htext, hblank]
    exact Bool.false_ne_true
  · have hzero := hlength.trans (List.count_eq_zero.mpr hmem)
    exact .inl ⟨List.length_eq_zero_iff.mp hzero, hzero⟩

/-- As long as a session is open and each validation call ends in a verdict or in a fault of the
transport, every draft is attended to. -/
theorem draft_isAttended {s : Session V} (hs : Reachable view s)
    (hopen : ∀ x ∈ s.history, x.isClosing = false) (hcalls : ∀ x ∈ s.history, x.isBroken = false)
    (d : Draft) : IsAttended s d := by
  obtain ⟨hblank, hstill, hwaiting, hvalid⟩ := (hs.attained.stands d).labels
  refine ⟨hblank, fun hempty => ⟨hstill hempty, fun hmem => ?_⟩, hs.timer d, fun hlabel => ?_,
    hvalid⟩
  · obtain ⟨hnone, -⟩ | ⟨-, -, hne⟩ := hs.timer d
    · obtain ⟨x, hx, rfl⟩ := List.mem_map.mp hmem
      simpa using List.filter_eq_nil_iff.mp hnone x hx
    · exact hne hempty
  · obtain ⟨hsnapshot, hstatus⟩ := hwaiting hlabel
    refine ⟨hsnapshot, ?_⟩
    obtain hkey | hunder | ⟨x, hmem, hdropped | hbroken⟩ := hs.attained.isAwaited d hstatus
    · exact .inl hkey
    · exact .inr (exists_validates hunder)
    · exact absurd (Happening.dropped_eq_nil (hopen x hmem)) hdropped
    · rw [hcalls x hmem] at hbroken
      cases hbroken

/-- An input whose timer is armed. -/
theorem draft_isAttended_while_waiting :
    let s := easySession 300000 [.edit .input "1"]
    (s.store.draft .input).status.label = "Validating..." ∧ IsAttended s .input := by
  have hs := reachable_easySession 300000 [.edit .input "1"] (by decide)
  exact ⟨by decide +kernel, draft_isAttended hs (by decide +kernel) (by decide +kernel) .input⟩

end Workbench.Session
