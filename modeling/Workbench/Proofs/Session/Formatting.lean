import Workbench.Proofs.Json.Characters
import Workbench.Proofs.Json.Standard
import Workbench.Proofs.Service.Wire
import Workbench.Proofs.Session.Effect
import Workbench.Proofs.Session.Leads

/-!
# Formatting a draft

A draft that holds JSON is laid out anew, and says the same as before; laid out, it stays as it
is. A draft that holds none is left alone, and so is everything else. The answer tells which of
the two it was, unless the view breaks when it is told. A draft in standard JSON stays so as long
as all its numbers are finite.
-/
namespace Workbench.Json

/-- A value that has been read is read back from its layout. -/
theorem decode_indented {text : String} {v : Value} (h : decode text = .ok v)
    (hfloats : ∀ x ∈ v.floats, x.isFinite = true → ReadsBack x) (step : Nat) :
    decode (indented step v) = .ok v :=
  decode_eq_ok.mpr
    (scanTextWithin_of_isTextOf (isReadable_of_decode h) hfloats (isTextOf_indentedAt step 0 v))

end Workbench.Json

namespace Workbench.Service

end Workbench.Service

namespace Workbench.Session

open Document (Draft)

variable {V : Type}

/-! ## What formatting comes to -/

/-- Once a text is in, an edit only tells of it. -/
theorem isQuiet_afterEdit {view : View V} (d : Draft) :
    Act.IsQuiet view
      (Act.announceState view d.buffer >>= fun _ => pure (Progress.done .nothing)) :=
  (Act.isQuiet_announceState d.buffer).bind fun _ => Act.isQuiet_pure _

/-- An edit puts its text into the draft and leaves the other, whatever the view makes of it. -/
theorem draft_edit (view : View V) (d e : Draft) (text : String) (s : Session V) :
    ((Act.edit view d.buffer text).run s).2.store.draft e =
      if d = e then freshDraft d text else s.store.draft e := by
  rw [Act.run_edit, ((isQuiet_afterEdit d).still _).store, applyEdit, draft_putText,
    if_neg Bool.false_ne_true, store_overwrite]
  rfl

/-- Only the view can break an edit. -/
theorem breaksWith_of_edit {view : View V} {d : Draft} {text : String} {s : Session V} {f : Failure}
    (h : ((Act.edit view d.buffer text).run s).1 = .error f) : View.BreaksWith view f := by
  rw [Act.run_edit] at h
  exact (isQuiet_afterEdit d).failure _ _ h

theorem announceFormatted_eq (view : View V) (d : Draft) :
    Act.announceFormatted view d.buffer =
      (Act.announceNotice view (draftTitle d ++ " formatted successfully") .success >>= fun _ =>
        pure (.done (.flag true))) := by
  cases d <;> rfl

theorem isQuiet_announceFormatted {view : View V} (d : Draft) :
    Act.IsQuiet view (Act.announceFormatted view d.buffer) := by
  rw [announceFormatted_eq]
  exact (Act.isQuiet_announceNotice _ _).bind fun _ => Act.isQuiet_pure _

section Cases

variable (view : View V) {d : Draft} {s : Session V}

theorem text_buffer (d : Draft) (s : Session V) :
    s.store.text d.buffer = (s.store.draft d).text := by
  cases d <;> rfl

theorem run_format_of_isBlank (h : Text.isBlank (s.store.draft d).text = true) :
    (Act.format view d.buffer).run s = (.ok (.done (.flag false)), s) := by
  rw [Act.format, Act.run_bind, Act.run_get]
  dsimp only
  rw [text_buffer, if_pos h, Act.run_pure]

theorem run_format_of_error {e : Json.DecodeError}
    (hblank : Text.isBlank (s.store.draft d).text = false)
    (h : Json.decode (s.store.draft d).text = .error e) :
    (Act.format view d.buffer).run s =
      (Act.announceNotice view ("Invalid JSON: " ++ e.message) .error >>= fun _ =>
        pure (.done (.flag false))).run s := by
  rw [Act.format, Act.run_bind, Act.run_get]
  dsimp only
  rw [text_buffer, hblank, if_neg Bool.false_ne_true, h]

theorem run_format_of_decode {v : Json.Value} (h : Json.decode (s.store.draft d).text = .ok v) :
    (Act.format view d.buffer).run s =
      (if Json.indented 2 v ≠ (s.store.draft d).text then do
        let _ ← Act.edit view d.buffer (Json.indented 2 v)
        Act.announceFormatted view d.buffer
      else Act.announceFormatted view d.buffer).run s := by
  rw [Act.format, Act.run_bind, Act.run_get]
  dsimp only
  rw [text_buffer, Json.isBlank_of_decode h, if_neg Bool.false_ne_true, h]

/-- Formatting a draft that decodes lays its value out, and leaves the text of the other. -/
theorem texts_format (d e : Draft) {s : Session V} {v : Json.Value}
    (h : Json.decode (s.store.draft d).text = .ok v) :
    (((Act.format view d.buffer).run s).2.store.draft e).text =
      if d = e then Json.indented 2 v else (s.store.draft e).text := by
  rw [run_format_of_decode view h]
  split
  case isTrue =>
    have hedit := congrArg Document.DraftState.text (draft_edit view d e (Json.indented 2 v) s)
    rw [apply_ite Document.DraftState.text] at hedit
    rw [Act.run_bind]
    rcases hrun : (Act.edit view d.buffer (Json.indented 2 v)).run s with ⟨result, t⟩
    rw [hrun] at hedit
    cases result with
    | error f => exact hedit
    | ok p =>
      dsimp only at hedit ⊢
      rw [((isQuiet_announceFormatted d).still t).store]
      exact hedit
  case isFalse hsame =>
    rw [((isQuiet_announceFormatted d).still s).store]
    split
    case isTrue hd =>
      subst hd
      exact (Classical.not_not.mp hsame).symm
    case isFalse => rfl

theorem text_format (d : Draft) {s : Session V} {v : Json.Value}
    (h : Json.decode (s.store.draft d).text = .ok v) :
    (((Act.format view d.buffer).run s).2.store.draft d).text = Json.indented 2 v := by
  rw [texts_format view d d h, if_pos rfl]

/-- Formatting a draft that holds no JSON changes nothing. -/
theorem still_format (h : (!Text.isBlank (s.store.draft d).text &&
    Json.isJson (s.store.draft d).text) = false) :
    Still s ((Act.format view d.buffer).run s).2 := by
  cases hblank : Text.isBlank (s.store.draft d).text with
  | true =>
    rw [run_format_of_isBlank view hblank]
    exact .refl s
  | false =>
    rw [hblank, Json.isJson] at h
    cases hdecode : Json.decode (s.store.draft d).text with
    | error e =>
      rw [run_format_of_error view hblank hdecode]
      exact ((Act.isQuiet_announceNotice _ _).bind fun _ => Act.isQuiet_pure _).still s
    | ok v =>
      rw [hdecode] at h
      cases h

end Cases

/-! ## The answer -/

/-- A stretch of work answers with a flag, unless the view breaks on its way. -/
def Act.Answers (view : View V) (x : Act V Progress) (s : Session V) (flag : Bool) : Prop :=
  (x.run s).1 = .ok (.done (.flag flag)) ∨ ∃ f, (x.run s).1 = .error f ∧ View.BreaksWith view f

theorem Act.IsQuiet.answers {view : View V} {α : Type} {x : Act V α} (hx : Act.IsQuiet view x)
    (s : Session V) (flag : Bool) :
    Act.Answers view (x >>= fun _ => pure (.done (.flag flag))) s flag := by
  unfold Act.Answers
  rw [Act.run_bind]
  rcases hrun : x.run s with ⟨e | a, t⟩
  · exact .inr ⟨e, rfl, hx.failure s e (by rw [hrun])⟩
  · exact .inl rfl

theorem answers_announceFormatted (view : View V) (d : Draft) (s : Session V) :
    Act.Answers view (Act.announceFormatted view d.buffer) s true := by
  rw [announceFormatted_eq]
  exact (Act.isQuiet_announceNotice _ _).answers s true

/-- Formatting answers whether the draft holds JSON. -/
theorem answers_format (view : View V) (d : Draft) (s : Session V) :
    Act.Answers view (Act.format view d.buffer) s
      (!Text.isBlank (s.store.draft d).text && Json.isJson (s.store.draft d).text) := by
  cases hblank : Text.isBlank (s.store.draft d).text with
  | true => exact .inl (congrArg Prod.fst (run_format_of_isBlank view hblank))
  | false =>
    rw [Json.isJson]
    cases hdecode : Json.decode (s.store.draft d).text with
    | error e =>
      unfold Act.Answers
      rw [run_format_of_error view hblank hdecode]
      exact (Act.isQuiet_announceNotice _ _).answers s false
    | ok v =>
      unfold Act.Answers
      rw [run_format_of_decode view hdecode]
      split
      case isFalse => exact answers_announceFormatted view d s
      case isTrue =>
        rw [Act.run_bind]
        rcases hrun : (Act.edit view d.buffer (Json.indented 2 v)).run s with ⟨f | p, t⟩
        · exact .inr ⟨f, rfl, breaksWith_of_edit (by rw [hrun])⟩
        · exact answers_announceFormatted view d t

/-- A draft that holds a standard document holds one after formatting just if the decoder has made
finite numbers of all numbers in it, or has not read it at all. -/
theorem format_standard_iff (view : View V) (d : Draft) (s : Session V)
    (h : Json.IsDocument (s.store.draft d).text.toList) :
    Json.IsDocument (((Act.format view d.buffer).run s).2.store.draft d).text.toList ↔
      ∀ v, Json.decode (s.store.draft d).text = .ok v → ∀ x ∈ v.floats, x.isFinite = true := by
  cases hdecode : Json.decode (s.store.draft d).text with
  | error e =>
    have hrefused : (!Text.isBlank (s.store.draft d).text &&
        Json.isJson (s.store.draft d).text) = false := by
      rw [Json.isJson, hdecode, Except.isOk, Except.toBool, Bool.and_false]
    rw [(still_format view hrefused).store]
    exact iff_of_true h fun v hv => by cases hv
  | ok v =>
    have hfinite : Json.hasNonFinite v = false ↔ ∀ x ∈ v.floats, x.isFinite = true := by
      rw [← Bool.not_eq_true, Json.hasNonFinite_iff (Json.isReadable_of_decode hdecode)]
      simp
    rw [text_format view d hdecode, Json.indented,
      (Json.isTextOf_indentedAt 2 0 v).isDocument_iff, hfinite]
    constructor
    · rintro hall w hw
      cases hw
      exact hall
    · intro hall
      exact hall v rfl

/-- A session whose input is this text. -/
def inputSession (text : String) : Session Unit :=
  (localSession easyServer 300000 false).putText .input text

/-- A one with an exponent. -/
theorem isNumber_one_exponent {e : Char} {ds : List Char} (he : e = 'e' ∨ e = 'E')
    (hds : Json.IsDigits ds) : Json.IsNumber ('1' :: e :: ds) := by
  have hwhole : Json.IsWhole ['1'] := .digits rfl (by decide) (by simp)
  exact .plain (.mk hwhole .absent (.unsigned he hds))

theorem isDocument_scientific : Json.IsDocument "[1E5]".toList := by
  have hnumber : Json.IsNumber ['1', 'E', '5'] :=
    isNumber_one_exponent (.inr rfl) (.mk rfl (by simp))
  have hstandard : Json.IsStandard "[1E5]".toList :=
    .array Json.isGap_nil (.number hnumber) (.close Json.isGap_nil)
  exact hstandard.isDocument

theorem isDocument_overflow : Json.IsDocument "1e999".toList := by
  have hnumber : Json.IsNumber ['1', 'e', '9', '9', '9'] :=
    isNumber_one_exponent (.inl rfl) (.mk rfl (by simp))
  have hstandard : Json.IsStandard "1e999".toList := .number hnumber
  exact hstandard.isDocument

/-- A number with an exponent is written without it, in a standard document again. -/
theorem format_standard_iff_scientific :
    Json.IsDocument ((inputSession "[1E5]").store.draft .input).text.toList ∧
      let run := (Act.format blindView Draft.input.buffer).run (inputSession "[1E5]")
      (run.2.store.draft .input).text = "[\n  100000.0\n]" ∧
        Json.IsDocument (run.2.store.draft .input).text.toList := by
  have htext : (((Act.format blindView Draft.input.buffer).run
      (inputSession "[1E5]")).2.store.draft .input).text = "[\n  100000.0\n]" := by decide +kernel
  refine ⟨isDocument_scientific, htext, ?_⟩
  refine (format_standard_iff blindView .input (inputSession "[1E5]") isDocument_scientific).mpr
    fun v hdecode => ?_
  have hfinite : (Json.decode ((inputSession "[1E5]").store.draft .input).text).toOption.map
      (fun v => v.floats.all Number.Binary64.isFinite) = some true := by decide +kernel
  rw [hdecode] at hfinite
  exact List.all_eq_true.mp (Option.some.inj hfinite)

/-- A standard document is formatted into a text that is none: a number is too large for the
decoder. -/
theorem not_isDocument_after_overflow :
    let run := (Act.format blindView Draft.input.buffer).run (inputSession "1e999")
    Json.IsDocument ((inputSession "1e999").store.draft .input).text.toList ∧
      run.1 = .ok (.done (.flag true)) ∧ (run.2.store.draft .input).text = "Infinity" ∧
      ¬ Json.IsDocument (run.2.store.draft .input).text.toList := by
  intro run
  have haccepted : (!Text.isBlank ((inputSession "1e999").store.draft .input).text &&
      Json.isJson ((inputSession "1e999").store.draft .input).text) = true := by decide +kernel
  have hanswer : run.1 = .ok (.done (.flag true)) := by
    obtain hanswer | ⟨f, -, hbreaks⟩ := answers_format blindView .input (inputSession "1e999")
    · rwa [haccepted] at hanswer
    · exact absurd hbreaks.canBreak not_canBreak_blindView
  have htext : (run.2.store.draft .input).text = "Infinity" := by decide +kernel
  refine ⟨isDocument_overflow, hanswer, htext, fun hdocument => ?_⟩
  rw [htext] at hdocument
  cases hdocument.isMarked.marked_eq

end Workbench.Session
