import Workbench.Proofs.Command.Calls

/-!
# Exit codes

The exit code of a command tells what its session came to: zero says that the service found every
given text valid, or that the last transform succeeded, and then its result is what is written.
-/
namespace Workbench.Command

open Document (Draft)
open Service (Client Server)
open Session (FoundValid LastOutcome)

variable {w : Surroundings}

/-- A text passes if the service finds it valid, and a blank input passes by itself. -/
def Passes (history : List Session.Happening) (d : Draft) (text : String) : Prop :=
  (d = .input ∧ Text.isBlank text = true) ∨ (Text.isBlank text = false ∧ FoundValid history d text)

theorem refuses_eq_false_iff {store : Document.Store} {texts : Draft → Option String} :
    refuses store texts = false ↔ ∀ d text, texts d = some text → isRefused store d text = false := by
  unfold refuses
  constructor
  · intro h d text htext
    have hall : ∀ d ∈ [Draft.input, .spec], ((texts d).any (isRefused store d)) = false := by
      simpa using h
    have hd := hall d (by cases d <;> simp)
    rwa [htext, Option.any_some] at hd
  · intro h
    rw [List.any_eq_false]
    intro d _
    cases htext : texts d with
    | none => simp
    | some text => simp [h d text htext]

/-- A given text is refused unless it passes. -/
theorem isRefused_eq_false_iff {armed : Bool} {texts : Draft → Option String} {s : Session Unit}
    (h : Session.HasSettled texts armed false s) {d : Draft} {text : String}
    (htext : texts d = some text) :
    isRefused s.store d text = false ↔ Passes s.history d text := by
  have hfound : (s.store.draft d).snapshot.isSome = true ↔
      Text.isBlank text = false ∧ FoundValid s.history d text := by
    rw [h.snapshot_isSome_iff]
    constructor
    · rintro ⟨text', hmem, hvalid⟩
      obtain ⟨hgiven, hblank⟩ := Session.mem_textsOf.mp hmem
      rw [htext] at hgiven
      cases hgiven
      exact ⟨hblank, hvalid⟩
    · rintro ⟨hblank, hvalid⟩
      exact ⟨text, Session.mem_textsOf.mpr ⟨htext, hblank⟩, hvalid⟩
  unfold Passes
  rw [← hfound, isRefused]
  cases (s.store.draft d).snapshot <;> simp

/-- The service of the settings found every given text valid; a blank input needs no verdict. -/
def Approves (w : Surroundings) (job : ValidateJob) (input spec : Option String) : Prop :=
  ∃ settings client, w.service job.baseUrl = .ok (settings, client) ∧
    ∀ d text, given input spec d = some text →
      Passes (validateSession settings client w.server input spec).history d text

/-- The last transform was answered by this outcome. -/
def Answers (w : Surroundings) (job : TransformJob) (input spec : String) (o : Service.Outcome) : Prop :=
  ∃ settings client, w.service job.baseUrl = .ok (settings, client) ∧
    LastOutcome (transformSession settings client w.server input spec).history o

theorem exitCode_validate {job : ValidateJob} {input spec : Option String}
    (hgiven : (job.input.isNone && job.spec.isNone) = false)
    (hinput : Option.Rel w.Holds job.input input) (hspec : Option.Rel w.Holds job.spec spec)
    (hclient : ∀ settings client, w.service job.baseUrl = .ok (settings, client) →
      Carries client settings.autoTransform false (given input spec))
    (hshown : ((Invocation.validate job).run w).IsShown) :
    let o := (Invocation.validate job).run w
    (o.exitCode = 0 ↔ Approves w job input spec) ∧ (o.exitCode ≠ 0 → o.exitCode = 1) := by
  intro o
  cases hservice : w.service job.baseUrl with
  | error fault =>
    have hone : o.exitCode = 1 := ((Act.ComesTo.outcome (i := .validate job)
      (comesTo_validate_of_fault hgiven hinput hspec hservice)).2 hshown).1
    refine ⟨⟨fun hzero => ?_, ?_⟩, fun _ => hone⟩
    · rw [hone] at hzero
      cases hzero
    · rintro ⟨settings, client, hok, -⟩
      rw [hservice] at hok
      cases hok
  | ok x =>
    obtain ⟨settings, client⟩ := x
    have hsettled := hasSettled_validateSession w.server (hclient settings client hservice)
    obtain ⟨result, hfinished, hends⟩ := hsettled.ended
    have hpasses : Approves w job input spec ↔ refuses
        (validateSession settings client w.server input spec).store (given input spec) = false := by
      rw [refuses_eq_false_iff]
      constructor
      · rintro ⟨settings', client', hok, hall⟩ d text htext
        rw [hservice] at hok
        cases hok
        exact (isRefused_eq_false_iff hsettled htext).mpr (hall d text htext)
      · exact fun hall => ⟨settings, client, hservice, fun d text htext =>
          (isRefused_eq_false_iff hsettled htext).mp (hall d text htext)⟩
    cases hends with
    | rests _ answers =>
      have hcode : o.exitCode = exitCodeOf _ := ((Act.ComesTo.outcome (i := .validate job)
        (comesTo_validate hgiven hinput hspec hservice rfl hfinished)).2 hshown).1
      rw [hcode, hpasses]
      cases refuses _ (given input spec) <;> simp [exitCodeOf]
    | _ h => cases h

theorem succeeds_iff {s : Session Unit} {text : String} :
    succeeds s = true ∧ s.store.outputText = text ↔ Session.Delivers s text := by
  unfold succeeds
  rw [Bool.and_eq_true, Option.isNone_iff_eq_none, beq_iff_eq]
  exact ⟨fun h => ⟨h.1.1, h.1.2, h.2⟩, fun h => ⟨⟨h.unwarned, h.valid⟩, h.output⟩⟩

/-- A transform that is answered was of texts that are not blank. -/
theorem not_blank_of_lastOutcome {armed : Bool} {input spec : String} {s : Session Unit}
    (h : Session.HasSettled (given (some input) (some spec)) armed true s) {o : Service.Outcome}
    (hlast : LastOutcome s.history o) : Text.isBlank input = false ∧ Text.isBlank spec = false := by
  have hmissing : Session.missing? s.store = none := by
    by_contra hmissing
    exact h.not_lastOutcome (.inl hmissing) o hlast
  have hboth := h.keeps.missing?_eq
  rw [hmissing] at hboth
  simpa [given] using hboth.symm

/-- The exit code and the file that is written tell whether a transform was answered with success, and
with which result. -/
structure Tells (o : Outcome) (job : TransformJob) (answered : Service.Outcome → Prop) : Prop where
  exitCode : o.exitCode = 0 ↔ ∃ out, answered out ∧ out.success = true
  written : ∀ out, answered out → out.success = true →
    o.report.written = job.output.map fun path => (path, out.result.getD "")
  otherwise : o.exitCode ≠ 0 → o.exitCode = 1 ∧ o.report.written = none

theorem Tells.of_failed {o : Outcome} {job : TransformJob} {answered : Service.Outcome → Prop}
    (h : o.exitCode = 1 ∧ o.report.written = none)
    (hnone : ∀ out, answered out → out.success ≠ true) : Tells o job answered := by
  refine ⟨⟨fun hzero => ?_, ?_⟩, fun out hout hsuccess => absurd hsuccess (hnone out hout), fun _ => h⟩
  · rw [h.1] at hzero
    cases hzero
  · rintro ⟨out, hout, hsuccess⟩
    exact absurd hsuccess (hnone out hout)

theorem tells_transform {job : TransformJob} {input spec : String}
    (hinput : w.Holds job.input input) (hspec : w.Holds job.spec spec)
    (hclient : ∀ settings client, w.service job.baseUrl = .ok (settings, client) →
      Carries client settings.autoTransform true (given input spec))
    (hshown : ((Invocation.transform job).run w).IsShown) :
    Tells ((Invocation.transform job).run w) job (Answers w job input spec) := by
  cases hservice : w.service job.baseUrl with
  | error fault =>
    refine .of_failed ((Act.ComesTo.outcome (i := .transform job)
      (comesTo_transform_of_fault hinput hspec hservice)).2 hshown) ?_
    rintro out ⟨settings, client, hok, -⟩
    rw [hservice] at hok
    cases hok
  | ok x =>
    obtain ⟨settings, client⟩ := x
    have hsettled := hasSettled_transformSession w.server (hclient settings client hservice)
    have hdelivers (text : String) := hsettled.delivers_iff text
      (Session.reachable_transformSession settings client w.server input spec)
    obtain ⟨result, hfinished, -⟩ := hsettled.ended
    have hanswers {out : Service.Outcome} (hout : Answers w job input spec out) :
        LastOutcome (transformSession settings client w.server input spec).history out := by
      obtain ⟨settings', client', hok, hlast⟩ := hout
      rw [hservice] at hok
      cases hok
      exact hlast
    cases result with
    | error f =>
      refine .of_failed ((Act.ComesTo.outcome (i := .transform job)
        (comesTo_transform_of_error hinput hspec hservice rfl hfinished)).2 hshown) ?_
      intro out hout hsuccess
      obtain ⟨⟨answers, heq⟩, -⟩ := (hdelivers _).mpr ⟨out, hanswers hout, hsuccess, rfl⟩
      rw [hfinished] at heq
      cases heq
    | ok answers =>
      obtain ⟨hcode, hwritten⟩ := (Act.ComesTo.outcome (i := .transform job)
        (comesTo_transform hinput hspec hservice rfl hfinished)).2 hshown
      have hgood {out : Service.Outcome} (hout : Answers w job input spec out)
          (hsuccess : out.success = true) :=
        succeeds_iff.mpr ((hdelivers _).mpr ⟨out, hanswers hout, hsuccess, rfl⟩).2
      refine ⟨⟨fun hzero => ?_, ?_⟩, fun out hout hsuccess => ?_, fun hnot => ?_⟩
      · rw [hcode] at hzero
        split at hzero
        case isTrue hsucceeds =>
          obtain ⟨out, hlast, hsuccess, -⟩ :=
            (hdelivers _).mp ⟨⟨answers, hfinished⟩, succeeds_iff.mp ⟨hsucceeds, rfl⟩⟩
          exact ⟨out, ⟨settings, client, hservice, hlast⟩, hsuccess⟩
        case isFalse => cases hzero
      · rintro ⟨out, hout, hsuccess⟩
        rw [hcode, (hgood hout hsuccess).1]
        rfl
      · obtain ⟨hsucceeds, htext⟩ := hgood hout hsuccess
        rw [hwritten, hsucceeds, if_pos rfl, htext]
      · rw [hcode] at hnot ⊢
        rw [hwritten]
        split at hnot
        case isTrue => exact absurd rfl hnot
        case isFalse hfails => rw [if_neg hfails, if_neg hfails]; exact ⟨rfl, rfl⟩

/-- The exit codes tell the truth. A validation of some file exits with zero if and only if the settings
name a service and it found every given text valid, where a blank input needs no verdict; otherwise it
exits with one. A transform exits with zero if and only if neither text is blank and the last transform
was answered with success; then and only then a file is written, and it holds the result. -/
theorem exitCode_tells (w : Surroundings) :
    (∀ (job : ValidateJob) (input spec : Option String),
      (job.input.isNone && job.spec.isNone) = false →
      Option.Rel w.Holds job.input input → Option.Rel w.Holds job.spec spec →
      (∀ settings client, w.service job.baseUrl = .ok (settings, client) →
        Carries client settings.autoTransform false (given input spec)) →
      ((Invocation.validate job).run w).IsShown →
      let o := (Invocation.validate job).run w
      (o.exitCode = 0 ↔ Approves w job input spec) ∧ (o.exitCode ≠ 0 → o.exitCode = 1)) ∧
    ∀ (job : TransformJob) (input spec : String),
      w.Holds job.input input → w.Holds job.spec spec →
      (∀ settings client, w.service job.baseUrl = .ok (settings, client) →
        Carries client settings.autoTransform true (given input spec)) →
      ((Invocation.transform job).run w).IsShown →
      Tells ((Invocation.transform job).run w) job fun out =>
        Text.isBlank input = false ∧ Text.isBlank spec = false ∧ Answers w job input spec out := by
  refine ⟨fun job input spec hgiven hinput hspec hclient hshown =>
    exitCode_validate hgiven hinput hspec hclient hshown, ?_⟩
  intro job input spec hinput hspec hclient hshown
  have hanswers (out : Service.Outcome) :
      (Text.isBlank input = false ∧ Text.isBlank spec = false ∧ Answers w job input spec out) ↔
        Answers w job input spec out := by
    refine ⟨fun h => h.2.2, fun h => ?_⟩
    obtain ⟨settings, client, hservice, hlast⟩ := h
    have hsettled := hasSettled_transformSession w.server (hclient settings client hservice)
    obtain ⟨hinput, hspec⟩ := not_blank_of_lastOutcome hsettled hlast
    exact ⟨hinput, hspec, settings, client, hservice, hlast⟩
  simp only [hanswers]
  exact tells_transform hinput hspec hclient hshown

/-- Printing and writing have not failed if they can be seen not to have. -/
theorem Outcome.isShown_of_all {o : Outcome} (h : (o.fault.all fun f => !f.isOfOutput) = true) :
    o.IsShown := by
  intro f hf
  rw [hf] at h
  simpa using h

/-- The result is only shown. -/
def armedTransformJob : TransformJob :=
  { input := .ofString "i.json", spec := .ofString "s.json", asTree := false, output := none
    baseUrl := none }

theorem exitCode_tells_armed :
    Approves armedSurroundings armedJob (some "1") (some "[]") ∧
      ∃ out, (Text.isBlank "1" = false ∧ Text.isBlank "[]" = false ∧
        Answers armedSurroundings armedTransformJob "1" "[]" out) ∧ out.success = true := by
  have hclient {asks : Bool} (settings : Settings) (client : Client)
      (hservice : armedSurroundings.service none = .ok (settings, client)) :
      Carries client settings.autoTransform asks (given (some "1") (some "[]")) := by
    rw [service_armedSurroundings] at hservice
    cases hservice
    exact carries_localClient ..
  have hvalidate := (exitCode_tells armedSurroundings).1 armedJob (some "1") (some "[]") rfl
    (.some holds_input) (.some holds_spec) hclient (Outcome.isShown_of_all (by decide +kernel))
  have htransform := (exitCode_tells armedSurroundings).2 armedTransformJob "1" "[]"
    holds_input holds_spec hclient (Outcome.isShown_of_all (by decide +kernel))
  exact ⟨hvalidate.1.mp (by decide +kernel), htransform.exitCode.mp (by decide +kernel)⟩

/-- Surroundings with settings that are no good. -/
def flawedSurroundings : Surroundings :=
  { sources := { environment := [("J2J_STUDIO_DEBOUNCE_MS", "-1")] }
    entry := Files.entry [(["i.json"], [])]
    server := Session.easyServer }

/-- A blank input is to be validated. -/
def blankJob : ValidateJob := { input := some (.ofString "i.json"), spec := none, baseUrl := none }

/-- Without settings also the validation of a blank input fails. -/
theorem blank_input_fails :
    flawedSurroundings.Holds (.ofString "i.json") "" ∧ Text.isBlank "" = true ∧
      ((Invocation.validate blankJob).run flawedSurroundings).IsShown ∧
      ((Invocation.validate blankJob).run flawedSurroundings).exitCode = 1 :=
  ⟨⟨[], by decide +kernel, by decide +kernel⟩, by decide, Outcome.isShown_of_all (by decide +kernel),
    by decide +kernel⟩

end Workbench.Command
