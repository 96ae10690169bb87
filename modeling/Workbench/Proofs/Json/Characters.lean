import Workbench.Proofs.Json.Roundtrip
import Workbench.Styled.Text
import Workbench.Text.Blank

/-!
# The characters of JSON texts

A text that decodes is not blank, and in the form over several lines there is no character that a
terminal would drop.
-/
namespace Workbench.Json

/-! ## A text that decodes is not blank -/

/-- No value begins with white space of any kind. -/
theorem exists_eq_cons_of_scanWith {enter : Container → List Char → Scanned Value} {s r : List Char}
    {v : Value} (h : scanWith enter s = .ok (v, r)) :
    ∃ c more, s = c :: more ∧ Text.isBlankChar c = false := by
  obtain _ | ⟨c, more⟩ := s
  · cases h
  refine ⟨c, more, rfl, Bool.eq_false_iff.mpr fun hblank => ?_⟩
  have hfirst : ∀ d ∈ ['"', '[', '\x7b', 'n', 't', 'f', 'N', 'I', '-', '0'],
      (!Text.isBlankChar d) = true := List.all_eq_true.mp rfl
  have hne : ∀ d ∈ ['"', '[', '\x7b', 'n', 't', 'f', 'N', 'I', '-', '0'], d ≠ c := by
    intro d hd heq
    rw [← heq] at hblank
    simpa [hblank] using hfirst d hd
  have hdigit : c.isDigit = false := by
    refine Bool.eq_false_iff.mpr fun hdigit => ?_
    simp only [Char.isDigit, ge_iff_le, Bool.and_eq_true, decide_eq_true_eq,
      UInt32.le_iff_toNat_le] at hdigit
    simp only [Text.isBlankChar, Char.toNat, Bool.or_eq_true, Bool.and_eq_true, decide_eq_true_eq,
      beq_iff_eq] at hblank
    have hzero : '0'.val.toNat = 48 := rfl
    have hnine : '9'.val.toNat = 57 := rfl
    omega
  simp only [List.forall_mem_cons, List.not_mem_nil, false_imp_iff, implies_true, and_true] at hne
  obtain ⟨hquote, hbracket, hbrace, hn, ht, hf, hN, hI, hminus, hzero⟩ := hne
  have hwords : words.find? (fun w => w.1.isPrefixOf (c :: more)) = none := by
    simp [words, List.isPrefixOf, hn, ht, hf, hN, hI, hminus]
  have hwhole : wholePart? (c :: more) = none := by
    simp [wholePart?, hzero.symm, hdigit]
  have hplain : scanWith enter (c :: more) = .error (.fault .noValue (c :: more).length) := by
    have hscan : scanWith enter (c :: more) = scanPlain (c :: more) := by
      simp [scanWith, hquote.symm, hbracket.symm, hbrace.symm]
    have hsign : numberSign (c :: more) = (false, c :: more) := numberSign_of_ne hminus.symm
    rw [hscan, scanPlain, hwords]
    dsimp only
    rw [scanNumber_eq, hsign]
    dsimp only
    rw [hwhole]
  rw [hplain] at h
  cases h

theorem isBlank_of_decode {text : String} {v : Value} (h : decode text = .ok v) :
    Text.isBlank text = false := by
  obtain ⟨rest, hvalue⟩ := exists_scanValue_of_scanTextWithin (decode_eq_ok.mp h)
  obtain ⟨enter, henter⟩ := scanValue_eq maxNesting (skipSpace text.toList)
  rw [henter] at hvalue
  obtain ⟨c, more, htext, hc⟩ := exists_eq_cons_of_scanWith hvalue
  have hmem : c ∈ text.toList := by
    refine (List.dropWhile_sublist isSpace).mem ?_
    change c ∈ skipSpace text.toList
    rw [htext]
    exact List.mem_cons_self
  refine Bool.eq_false_iff.mpr fun hblank => ?_
  rw [List.all_eq_true.mp hblank c hmem] at hc
  cases hc

/-! ## Nothing is dropped -/

/-- A terminal shows all characters of the text. -/
def IsShown (s : List Char) : Prop := ∀ c ∈ s, Styled.isDropped c = false

theorem isShown_of_all {s : List Char} (h : s.all (!Styled.isDropped ·) = true) : IsShown s :=
  fun c hc => by simpa using List.all_eq_true.mp h c hc

theorem IsShown.append {s t : List Char} (hs : IsShown s) (ht : IsShown t) : IsShown (s ++ t) :=
  fun c hc => (List.mem_append.mp hc).elim (hs c) (ht c)

theorem isShown_encodeChar (c : Char) : IsShown (encodeChar c) := by
  intro d hd
  by_cases hcontrol : c.toNat < 0x20
  · -- there are only so many control characters
    have hall : ∀ n < 0x20, (encodeChar (Char.ofNat n)).all (!Styled.isDropped ·) = true := by
      decide
    have hc := hall c.toNat hcontrol
    rw [Char.ofNat_toNat] at hc
    simpa using List.all_eq_true.mp hc d hd
  · have hself : Styled.isDropped c = false := by
      refine Bool.eq_false_iff.mpr fun hdropped => hcontrol ?_
      simp only [Styled.isDropped, Bool.or_eq_true, beq_iff_eq] at hdropped
      obtain (((rfl | rfl) | rfl) | rfl) | rfl := hdropped <;> decide
    by_cases hquote : c = '"'
    · subst hquote
      exact isShown_of_all rfl d hd
    by_cases hbackslash : c = '\\'
    · subst hbackslash
      exact isShown_of_all rfl d hd
    have hplain : encodeChar c = [c] := by
      have hne : ∀ e : Char, e.toNat < 0x20 → c ≠ e := by
        rintro e he rfl
        exact hcontrol he
      simp [encodeChar, hquote, hbackslash, hne _ (show '\n'.toNat < 0x20 by decide),
        hne _ (show '\r'.toNat < 0x20 by decide), hne _ (show '\t'.toNat < 0x20 by decide),
        hne _ (show '\x08'.toNat < 0x20 by decide), hne _ (show '\x0c'.toNat < 0x20 by decide),
        hcontrol]
    rw [hplain, List.mem_singleton] at hd
    rw [hd]
    exact hself

theorem isShown_quote (s : String) : IsShown (quote s).toList := by
  intro c hc
  rw [quote_toList] at hc
  simp only [List.mem_cons, List.mem_append, List.mem_flatMap, List.not_mem_nil, or_false] at hc
  obtain rfl | ⟨d, -, hc⟩ | rfl := hc
  · rfl
  · exact isShown_encodeChar d c hc
  · rfl

theorem isShown_of_isNumberText {s : List Char} (h : IsNumberText s) : IsShown s := by
  intro c hc
  have hnumber := h.isNumberChar c hc
  refine Bool.eq_false_iff.mpr fun hdropped => ?_
  simp only [Styled.isDropped, Bool.or_eq_true, beq_iff_eq] at hdropped
  obtain (((rfl | rfl) | rfl) | rfl) | rfl := hdropped <;> cases hnumber

theorem isShown_floatText (x : Number.Binary64) : IsShown (floatText x).toList := by
  cases hfinite : x.isFinite with
  | true => exact isShown_of_isNumberText (isNumberText_floatText hfinite)
  | false =>
    cases x with
    | nan => exact isShown_of_all rfl
    | infinite negative => cases negative <;> exact isShown_of_all rfl
    | finite => cases hfinite

theorem isShown_lineBreak (width : Nat) : IsShown (lineBreak width).toList := by
  intro c hc
  simp only [lineBreak, String.toList_append, String.toList_ofList, List.mem_append,
    List.mem_replicate] at hc
  obtain hc | ⟨-, rfl⟩ := hc
  · rw [List.mem_singleton.mp hc]
    rfl
  · rfl

mutual

theorem isShown_indentedAt (step : Nat) : ∀ (width : Nat) (v : Value),
    IsShown (indentedAt step width v).toList
  | width, .null => by rw [indentedAt]; exact isShown_of_all rfl
  | width, .bool b => by cases b <;> (rw [indentedAt]; exact isShown_of_all rfl)
  | width, .int i => by
    rw [indentedAt]
    exact isShown_of_isNumberText (isNumberText_integerText i)
  | width, .float x => by
    rw [indentedAt]
    exact isShown_floatText x
  | width, .string t => by
    rw [indentedAt]
    exact isShown_quote t
  | width, .array [] => by rw [indentedAt]; exact isShown_of_all rfl
  | width, .array (v :: vs) => by
    have hopen : IsShown "[".toList := isShown_of_all rfl
    simp only [indentedAt, String.toList_append]
    exact ((hopen.append (isShown_lineBreak _)).append (isShown_indentedAt step _ v)).append
      (isShown_indentedItems step width vs)
  | width, .object [] => by rw [indentedAt]; exact isShown_of_all rfl
  | width, .object ((k, v) :: ms) => by
    have hopen : IsShown "\x7b".toList := isShown_of_all rfl
    have hcolon : IsShown ": ".toList := isShown_of_all rfl
    simp only [indentedAt, String.toList_append]
    exact ((((hopen.append (isShown_lineBreak _)).append (isShown_quote k)).append hcolon).append
      (isShown_indentedAt step _ v)).append (isShown_indentedMembers step width ms)

theorem isShown_indentedItems (step width : Nat) : ∀ vs : List Value,
    IsShown (indentedItems step width vs).toList
  | [] => by
    have hclose : IsShown "]".toList := isShown_of_all rfl
    simp only [indentedItems, String.toList_append]
    exact (isShown_lineBreak width).append hclose
  | v :: vs => by
    have hcomma : IsShown ",".toList := isShown_of_all rfl
    simp only [indentedItems, String.toList_append]
    exact ((hcomma.append (isShown_lineBreak _)).append (isShown_indentedAt step _ v)).append
      (isShown_indentedItems step width vs)

theorem isShown_indentedMembers (step width : Nat) : ∀ ms : List (String × Value),
    IsShown (indentedMembers step width ms).toList
  | [] => by
    have hclose : IsShown "\x7d".toList := isShown_of_all rfl
    simp only [indentedMembers, String.toList_append]
    exact (isShown_lineBreak width).append hclose
  | (k, v) :: ms => by
    have hcomma : IsShown ",".toList := isShown_of_all rfl
    have hcolon : IsShown ": ".toList := isShown_of_all rfl
    simp only [indentedMembers, String.toList_append]
    exact ((((hcomma.append (isShown_lineBreak _)).append (isShown_quote k)).append hcolon).append
      (isShown_indentedAt step _ v)).append (isShown_indentedMembers step width ms)

end

end Workbench.Json
