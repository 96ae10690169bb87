import Mathlib.Algebra.Group.Nat.Defs
import Mathlib.Data.List.TakeWhile
import Workbench.Json.Decode
import Workbench.Json.Encode

/-!
# Numbers in JSON texts

The reader of numbers stops where the number does: what it makes of a text does not change when
something else follows. An integer of admissible length that has been written is read back.
-/
namespace Workbench.Json

/-- The characters that numbers are written with. -/
def isNumberChar (c : Char) : Bool :=
  c.isDigit || c == '-' || c == '+' || c == '.' || c == 'e' || c == 'E'

/-- What may follow a number without becoming part of it. -/
def EndsNumber (rest : List Char) : Prop := ∀ c more, rest = c :: more → isNumberChar c = false

theorem endsNumber_nil : EndsNumber [] := fun _ _ h => by cases h

theorem endsNumber_cons {c : Char} {more : List Char} (h : isNumberChar c = false) :
    EndsNumber (c :: more) := fun _ _ heq => by
  cases heq
  exact h

/-- The sign in front of digits, and what comes after it. -/
def exponentSign : List Char → Bool × List Char
  | '-' :: r => (true, r)
  | '+' :: r => (false, r)
  | r => (false, r)

theorem exponentPart?_cons (c : Char) (s : List Char) :
    exponentPart? (c :: s) =
      if c == 'e' || c == 'E' then
        let (negative, digits) := exponentSign s
        let ds := digits.takeWhile Char.isDigit
        if ds.isEmpty then none
        else
          let n : Int := natOfDigits ds
          some (if negative then -n else n, digits.dropWhile Char.isDigit)
      else none := by
  rfl

theorem exponentSign_of_ne {c : Char} {s : List Char} (hminus : c ≠ '-') (hplus : c ≠ '+') :
    exponentSign (c :: s) = (false, c :: s) := by
  unfold exponentSign
  split
  case h_1 heq => exact absurd (List.cons.inj heq).1 hminus
  case h_2 heq => exact absurd (List.cons.inj heq).1 hplus
  case h_3 => rfl

namespace EndsNumber

variable {rest : List Char}

theorem isDigit_eq (h : EndsNumber rest) {c : Char} {more : List Char} (heq : rest = c :: more) :
    c.isDigit = false := by
  have hc := h c more heq
  simp only [isNumberChar, Bool.or_eq_false_iff] at hc
  exact hc.1.1.1.1.1

theorem takeWhile_isDigit (h : EndsNumber rest) (s : List Char) :
    (s ++ rest).takeWhile Char.isDigit = s.takeWhile Char.isDigit := by
  induction s with
  | nil =>
    cases rest with
    | nil => rfl
    | cons c more => simp [h.isDigit_eq rfl]
  | cons c s ih => by_cases hc : c.isDigit <;> simp [hc, ih]

theorem dropWhile_isDigit (h : EndsNumber rest) (s : List Char) :
    (s ++ rest).dropWhile Char.isDigit = s.dropWhile Char.isDigit ++ rest := by
  induction s with
  | nil =>
    cases rest with
    | nil => rfl
    | cons c more => simp [h.isDigit_eq rfl]
  | cons c s ih => by_cases hc : c.isDigit <;> simp [hc, ih]

theorem wholePart?_append (h : EndsNumber rest) (s : List Char) :
    wholePart? (s ++ rest) = (wholePart? s).map fun (ds, r) => (ds, r ++ rest) := by
  cases s with
  | nil =>
    cases rest with
    | nil => rfl
    | cons c more =>
      have hdigit := h.isDigit_eq rfl
      have hzero : ¬ c = '0' := by
        rintro rfl
        cases hdigit
      simp [wholePart?, hdigit, hzero]
  | cons c s =>
    have htake := h.takeWhile_isDigit (c :: s)
    have hdrop := h.dropWhile_isDigit (c :: s)
    rw [List.cons_append] at htake hdrop
    simp only [wholePart?, List.cons_append]
    split
    · rfl
    split
    · simp [htake, hdrop]
    · rfl

theorem fractionPart?_append (h : EndsNumber rest) (s : List Char) :
    fractionPart? (s ++ rest) = (fractionPart? s).map fun (ds, r) => (ds, r ++ rest) := by
  cases s with
  | nil =>
    cases rest with
    | nil => rfl
    | cons c more =>
      have hpoint : ¬ c = '.' := by
        rintro rfl
        cases h _ _ rfl
      simp [fractionPart?, hpoint]
  | cons c s =>
    by_cases hpoint : c = '.'
    · subst hpoint
      simp only [fractionPart?, List.cons_append, h.takeWhile_isDigit, h.dropWhile_isDigit]
      split <;> rfl
    · simp [fractionPart?, hpoint]

theorem exponentSign_append (h : EndsNumber rest) (s : List Char) :
    exponentSign (s ++ rest) = ((exponentSign s).1, (exponentSign s).2 ++ rest) := by
  cases s with
  | nil =>
    cases rest with
    | nil => rfl
    | cons c more =>
      refine exponentSign_of_ne ?_ ?_ <;>
        · rintro rfl
          cases h _ _ rfl
  | cons c s =>
    by_cases hminus : c = '-'
    · subst hminus
      rfl
    by_cases hplus : c = '+'
    · subst hplus
      rfl
    · rw [List.cons_append, exponentSign_of_ne hminus hplus, exponentSign_of_ne hminus hplus]
      rfl

theorem exponentPart?_append (h : EndsNumber rest) (s : List Char) :
    exponentPart? (s ++ rest) = (exponentPart? s).map fun (e, r) => (e, r ++ rest) := by
  cases s with
  | nil =>
    cases rest with
    | nil => rfl
    | cons c more =>
      have hletter : (c == 'e' || c == 'E') = false := by
        have hc := h c more rfl
        simp only [isNumberChar, Bool.or_eq_false_iff] at hc ⊢
        exact ⟨hc.1.2, hc.2⟩
      rw [List.nil_append, exponentPart?_cons, hletter]
      rfl
  | cons c s =>
    rw [List.cons_append, exponentPart?_cons, exponentPart?_cons, h.exponentSign_append]
    dsimp only
    rw [h.takeWhile_isDigit, h.dropWhile_isDigit]
    split
    · split <;> rfl
    · rfl

end EndsNumber

/-- The sign in front of a number, and what comes after it. -/
def numberSign : List Char → Bool × List Char
  | '-' :: r => (true, r)
  | r => (false, r)

/-- A part of a number that may be left out, and what comes after it. -/
def optionalPart {α : Type} (part? : List Char → Option (α × List Char)) (s : List Char) :
    Option α × List Char :=
  match part? s with
  | some (a, r) => (some a, r)
  | none => (none, s)

theorem optionalPart_append {α : Type} {part? : List Char → Option (α × List Char)}
    {s rest : List Char} (h : part? (s ++ rest) = (part? s).map fun (a, r) => (a, r ++ rest)) :
    optionalPart part? (s ++ rest) =
      ((optionalPart part? s).1, (optionalPart part? s).2 ++ rest) := by
  rw [optionalPart, h, optionalPart]
  cases part? s <;> rfl

/-- A number is a sign, a whole part, and perhaps a fraction and an exponent. -/
theorem scanNumber_eq (s : List Char) :
    scanNumber s =
      match wholePart? (numberSign s).2 with
      | none => .error (.fault .noValue s.length)
      | some (whole, rest) =>
        let (fraction, rest) := optionalPart fractionPart? rest
        let (exponent, rest) := optionalPart exponentPart? rest
        match numberValue (numberSign s).1 whole fraction exponent with
        | .ok v => .ok (v, rest)
        | .error e => .error e := by
  change (match wholePart? (numberSign s).2 with
    | none => _
    | some (whole, rest) => _) = _
  cases wholePart? (numberSign s).2 with
  | none => rfl
  | some part =>
    dsimp only [optionalPart]
    cases fractionPart? part.2 with
    | none => cases exponentPart? part.2 <;> rfl
    | some fraction => cases exponentPart? fraction.2 <;> rfl

theorem numberSign_of_ne {c : Char} {s : List Char} (h : c ≠ '-') :
    numberSign (c :: s) = (false, c :: s) := by
  unfold numberSign
  split
  case h_1 heq => exact absurd (List.cons.inj heq).1 h
  case h_2 => rfl

theorem EndsNumber.numberSign_append {rest : List Char} (h : EndsNumber rest) (s : List Char) :
    numberSign (s ++ rest) = ((numberSign s).1, (numberSign s).2 ++ rest) := by
  cases s with
  | nil =>
    cases rest with
    | nil => rfl
    | cons c more =>
      refine numberSign_of_ne ?_
      rintro rfl
      cases h _ _ rfl
  | cons c s =>
    by_cases hminus : c = '-'
    · subst hminus
      rfl
    · rw [List.cons_append, numberSign_of_ne hminus, numberSign_of_ne hminus]
      rfl

/-- What the reader makes of a number does not change when something else follows. -/
theorem EndsNumber.scanNumber_append {rest : List Char} (h : EndsNumber rest) {s r : List Char}
    {v : Value} (hs : scanNumber s = .ok (v, r)) : scanNumber (s ++ rest) = .ok (v, r ++ rest) := by
  rw [scanNumber_eq] at hs ⊢
  rw [h.numberSign_append, h.wholePart?_append]
  cases hwhole : wholePart? (numberSign s).2 with
  | none =>
    rw [hwhole] at hs
    cases hs
  | some part =>
    obtain ⟨whole, r₁⟩ := part
    rw [hwhole] at hs
    dsimp only [Option.map_some] at hs ⊢
    rw [optionalPart_append (h.fractionPart?_append r₁)]
    dsimp only
    rw [optionalPart_append (h.exponentPart?_append _)]
    dsimp only
    split at hs
    case h_1 =>
      cases hs
      rfl
    case h_2 => cases hs

/-! ## The reader leaves an end of the text -/

theorem suffix_of_wholePart? {s ds r : List Char} (h : wholePart? s = some (ds, r)) : r <:+ s := by
  cases s with
  | nil => cases h
  | cons c s =>
    rw [wholePart?] at h
    split at h
    · cases h
      exact List.suffix_cons _ _
    split at h
    · cases h
      exact List.dropWhile_suffix _
    · cases h

theorem suffix_of_fractionPart? {s ds r : List Char} (h : fractionPart? s = some (ds, r)) :
    r <:+ s := by
  unfold fractionPart? at h
  split at h
  case h_1 rest =>
    dsimp only at h
    split at h
    · cases h
    · cases h
      exact (List.dropWhile_suffix _).trans (List.suffix_cons _ _)
  case h_2 => cases h

theorem exponentSign_suffix (s : List Char) : (exponentSign s).2 <:+ s := by
  unfold exponentSign
  split
  · exact List.suffix_cons _ _
  · exact List.suffix_cons _ _
  · exact List.suffix_rfl

theorem suffix_of_exponentPart? {s r : List Char} {e : Int} (h : exponentPart? s = some (e, r)) :
    r <:+ s := by
  cases s with
  | nil => cases h
  | cons c s =>
    rw [exponentPart?_cons] at h
    dsimp only at h
    split at h
    · split at h
      · cases h
      · cases h
        exact ((List.dropWhile_suffix _).trans (exponentSign_suffix s)).trans (List.suffix_cons _ _)
    · cases h

theorem optionalPart_suffix {α : Type} {part? : List Char → Option (α × List Char)}
    (h : ∀ s a r, part? s = some (a, r) → r <:+ s) (s : List Char) :
    (optionalPart part? s).2 <:+ s := by
  unfold optionalPart
  split
  · exact h _ _ _ ‹_›
  · exact List.suffix_rfl

theorem numberSign_suffix (s : List Char) : (numberSign s).2 <:+ s := by
  unfold numberSign
  split
  · exact List.suffix_cons _ _
  · exact List.suffix_rfl

theorem suffix_of_scanNumber {s r : List Char} {v : Value} (h : scanNumber s = .ok (v, r)) :
    r <:+ s := by
  rw [scanNumber_eq] at h
  split at h
  case h_1 => cases h
  case h_2 whole r₁ hwhole =>
    have hexponent := optionalPart_suffix (fun _ _ _ => suffix_of_exponentPart?)
      (optionalPart fractionPart? r₁).2
    have hfraction := optionalPart_suffix (fun _ _ _ => suffix_of_fractionPart?) r₁
    have hsuffix := ((hexponent.trans hfraction).trans (suffix_of_wholePart? hwhole)).trans
      (numberSign_suffix s)
    dsimp only at h
    split at h
    · cases h
      exact hsuffix
    · cases h

/-! ## Texts of numbers -/

/-- A text of number characters that begins with a digit, perhaps after a minus sign. -/
inductive IsNumberText : List Char → Prop
  | plain {d more} (hdigit : d.isDigit = true) (hmore : ∀ c ∈ more, isNumberChar c = true) :
      IsNumberText (d :: more)
  | minus {d more} (hdigit : d.isDigit = true) (hmore : ∀ c ∈ more, isNumberChar c = true) :
      IsNumberText ('-' :: d :: more)

theorem isNumberChar_of_isDigit {c : Char} (h : c.isDigit = true) : isNumberChar c = true := by
  simp [isNumberChar, h]

/-- A character that is no number character differs from a digit. -/
theorem ne_of_isDigit {c d : Char} (h : c.isDigit = true) (hd : d.isDigit = false) : c ≠ d := by
  rintro rfl
  rw [h] at hd
  cases hd

theorem isSpace_of_isNumberChar {c : Char} (h : isNumberChar c = true) : isSpace c = false := by
  by_contra hspace
  simp only [isSpace, Bool.not_eq_false, Bool.or_eq_true, beq_iff_eq] at hspace
  obtain ((rfl | rfl) | rfl) | rfl := hspace <;> cases h

namespace IsNumberText

variable {s rest : List Char}

theorem isNumberChar (h : IsNumberText s) : ∀ c ∈ s, isNumberChar c = true := by
  cases h with
  | plain hdigit hmore => exact List.forall_mem_cons.mpr ⟨isNumberChar_of_isDigit hdigit, hmore⟩
  | minus hdigit hmore =>
    exact List.forall_mem_cons.mpr
      ⟨rfl, List.forall_mem_cons.mpr ⟨isNumberChar_of_isDigit hdigit, hmore⟩⟩

/-- No word begins like a number. -/
theorem words_find? (h : IsNumberText s) :
    words.find? (fun w => w.1.isPrefixOf (s ++ rest)) = none := by
  cases h with
  | plain hdigit =>
    have hfirst : ∀ c ∈ ['n', 't', 'f', 'N', 'I', '-'], (!c.isDigit) = true :=
      List.all_eq_true.mp rfl
    have hletters : ∀ c ∈ ['n', 't', 'f', 'N', 'I', '-'], (c == _) = false := fun c hc =>
      beq_false_of_ne (ne_of_isDigit hdigit (by simpa using hfirst c hc)).symm
    simp [words, List.isPrefixOf, hletters]
  | @minus d more hdigit =>
    have hletter : ('I' == d) = false := beq_false_of_ne (ne_of_isDigit hdigit (by decide)).symm
    simp [words, List.isPrefixOf, hletter]

/-- Wherever a value is read, such a text is read as a number. -/
theorem scanWith_append (h : IsNumberText s) (enter : Container → List Char → Scanned Value)
    (rest : List Char) : scanWith enter (s ++ rest) = scanNumber (s ++ rest) := by
  have hplain : scanPlain (s ++ rest) = scanNumber (s ++ rest) := by
    rw [scanPlain, h.words_find?]
  rw [← hplain]
  cases h with
  | plain hdigit =>
    have hquote := ne_of_isDigit (d := '"') hdigit (by decide)
    have hbracket := ne_of_isDigit (d := '[') hdigit (by decide)
    have hbrace := ne_of_isDigit (d := '\x7b') hdigit (by decide)
    simp [scanWith, hquote, hbracket, hbrace]
  | minus hdigit => rfl

/-- A text that decodes to a value from its first character to its last is read whole. -/
theorem scanNumber_of_decode {text : String} {v : Value} (h : IsNumberText text.toList)
    (hdecode : decode text = .ok v) : scanNumber text.toList = .ok (v, []) := by
  have hskip : ∀ r, r <:+ text.toList → skipSpace r = r := fun r hr => by
    cases r with
    | nil => rfl
    | cons c r =>
      have hc := isSpace_of_isNumberChar (h.isNumberChar c (hr.subset List.mem_cons_self))
      simp [skipSpace, hc]
  have hscan : scanText text.toList = .ok v := by
    unfold decode decodeChars at hdecode
    split at hdecode
    · cases hdecode
    · split at hdecode
      · cases hdecode
        assumption
      · cases hdecode
  rw [scanText, hskip _ List.suffix_rfl] at hscan
  have hvalue : scanValue maxNesting text.toList = scanNumber text.toList := by
    have hnumber := h.scanWith_append (fun c s => scanContainer (scanValue 999) c s) []
    rwa [List.append_nil] at hnumber
  rw [hvalue] at hscan
  split at hscan
  case h_1 => cases hscan
  case h_2 v' r hnumber =>
    rw [hskip r (suffix_of_scanNumber hnumber)] at hscan
    split at hscan
    · cases hscan
      exact hnumber
    · cases hscan

end IsNumberText

/-! ## Written integers -/

theorem forall_digitsOf_isDigit (n : Nat) : ∀ c ∈ Nat.toDigits 10 n, c.isDigit = true :=
  fun _ hc => Nat.isDigit_of_mem_toDigits (by decide) (by decide) hc

theorem exists_toDigits_eq_cons (n : Nat) : ∃ d more, Nat.toDigits 10 n = d :: more ∧
    d.isDigit = true ∧ ∀ c ∈ more, c.isDigit = true := by
  obtain ⟨d, more, hdigits⟩ := List.exists_cons_of_ne_nil (Nat.toDigits_ne_nil (n := n) (b := 10))
  have hall := forall_digitsOf_isDigit n
  rw [hdigits] at hall
  exact ⟨d, more, hdigits, List.forall_mem_cons.mp hall⟩

theorem natOfDigits_toDigits (n : Nat) : natOfDigits (Nat.toDigits 10 n) = n := by
  have h := Nat.ofDigitChars_ten_toDigits (n := n)
  rw [Nat.ofDigitChars_eq_foldl] at h
  simpa only [natOfDigits, Nat.mul_comm] using h

theorem integerText_toList (i : Int) :
    (integerText i).toList = (if i < 0 then ['-'] else []) ++ Nat.toDigits 10 i.natAbs := by
  cases i with
  | ofNat n => simp [integerText, Int.toString_eq_repr, Int.repr]
  | negSucc n => simp [integerText, Int.toString_eq_repr, Int.repr]

theorem isNumberText_integerText (i : Int) : IsNumberText (integerText i).toList := by
  obtain ⟨d, more, hdigits, hd, hmore⟩ := exists_toDigits_eq_cons i.natAbs
  have hmore' := fun c hc => isNumberChar_of_isDigit (hmore c hc)
  rw [integerText_toList, hdigits]
  split
  · exact .minus hd hmore'
  · exact .plain hd hmore'

/-- Only zero begins with a zero. -/
theorem head?_toDigits_ne_zero {n : Nat} (h : 0 < n) : (Nat.toDigits 10 n).head? ≠ some '0' := by
  induction n using Nat.strongRecOn with
  | ind n ih =>
    by_cases hn : n < 10
    · have hdigit : ∀ d < 10, 0 < d → [Nat.digitChar d].head? ≠ some '0' := by decide
      rw [Nat.toDigits_of_lt_base hn]
      exact hdigit n hn h
    · have hfront := ih (n / 10) (by omega) (by omega)
      obtain ⟨d, more, hdigits, -, -⟩ := exists_toDigits_eq_cons (n / 10)
      rw [hdigits] at hfront
      rw [Nat.toDigits_of_base_le (by decide) (by omega), hdigits]
      exact hfront

theorem wholePart?_toDigits (n : Nat) :
    wholePart? (Nat.toDigits 10 n) = some (Nat.toDigits 10 n, []) := by
  by_cases hn : n = 0
  · subst hn
    rfl
  · obtain ⟨d, more, hdigits, hd, hmore⟩ := exists_toDigits_eq_cons n
    have hzero : d ≠ '0' := by
      have hhead := head?_toDigits_ne_zero (Nat.pos_of_ne_zero hn)
      rintro rfl
      rw [hdigits] at hhead
      exact hhead rfl
    have hall : ∀ c ∈ d :: more, c.isDigit = true := List.forall_mem_cons.mpr ⟨hd, hmore⟩
    rw [hdigits, wholePart?, if_neg (by simpa using hzero), if_pos hd,
      List.takeWhile_eq_self_iff.mpr hall, List.dropWhile_eq_nil_iff.mpr hall]

theorem numberSign_integerText (i : Int) :
    numberSign (integerText i).toList = (decide (i < 0), Nat.toDigits 10 i.natAbs) := by
  rw [integerText_toList]
  split
  case isTrue h => simp [numberSign, h]
  case isFalse h =>
    obtain ⟨d, more, hdigits, hd, -⟩ := exists_toDigits_eq_cons i.natAbs
    rw [List.nil_append, hdigits, numberSign_of_ne (ne_of_isDigit hd (by decide)),
      decide_eq_false h]

/-- An integer that has been written is read back if it is not too long. -/
theorem scanNumber_integerText {i : Int}
    (h : (Nat.toDigits 10 i.natAbs).length ≤ maxIntegerDigits) :
    scanNumber (integerText i).toList = .ok (.int i, []) := by
  have hvalue : numberValue (decide (i < 0)) (Nat.toDigits 10 i.natAbs) none none =
      .ok (.int i) := by
    rw [numberValue, if_neg (by omega), natOfDigits_toDigits]
    have hi : (if decide (i < 0) = true then -(i.natAbs : Int) else (i.natAbs : Int)) = i := by
      by_cases hneg : i < 0
      · rw [if_pos (decide_eq_true hneg)]
        omega
      · rw [if_neg (by simpa using hneg)]
        omega
    dsimp only
    rw [hi]
  rw [scanNumber_eq, numberSign_integerText, wholePart?_toDigits]
  dsimp only [optionalPart, fractionPart?, exponentPart?]
  rw [hvalue]

/-! ## Integers that have been read -/

theorem foldl_digits_lt {ds : List Char} (h : ∀ c ∈ ds, c.isDigit = true) (start : Nat) :
    ds.foldl (fun n d => n * 10 + (d.toNat - '0'.toNat)) start < (start + 1) * 10 ^ ds.length := by
  induction ds generalizing start with
  | nil => simp
  | cons d ds ih =>
    obtain ⟨hd, hds⟩ := List.forall_mem_cons.mp h
    have hdigit : d.toNat - '0'.toNat ≤ 9 := by
      have hrange := Char.isDigit_iff_toNat.mp hd
      have hzero : '0'.toNat = 48 := rfl
      have hnine : '9'.toNat = 57 := rfl
      omega
    calc _ < (start * 10 + (d.toNat - '0'.toNat) + 1) * 10 ^ ds.length := ih hds _
      _ ≤ (start + 1) * 10 * 10 ^ ds.length := Nat.mul_le_mul_right _ (by omega)
      _ = (start + 1) * 10 ^ (d :: ds).length := by
        rw [List.length_cons, Nat.pow_succ, Nat.mul_assoc, Nat.mul_comm 10]

theorem natOfDigits_lt {ds : List Char} (h : ∀ c ∈ ds, c.isDigit = true) :
    natOfDigits ds < 10 ^ ds.length := by
  simpa [natOfDigits] using foldl_digits_lt h 0

theorem isDigit_of_wholePart? {s ds r : List Char} (h : wholePart? s = some (ds, r)) :
    ds ≠ [] ∧ ∀ c ∈ ds, c.isDigit = true := by
  cases s with
  | nil => cases h
  | cons c s =>
    rw [wholePart?] at h
    split at h
    case isTrue hzero =>
      cases h
      simp_all
    case isFalse =>
      split at h
      case isTrue hdigit =>
        cases h
        exact ⟨by simp [hdigit], fun _ => List.mem_takeWhile_imp⟩
      case isFalse => cases h

theorem numberValue_cases {negative : Bool} {whole : List Char} {fraction : Option (List Char)}
    {exponent : Option Int} {v : Value}
    (hwhole : whole ≠ [] ∧ ∀ c ∈ whole, c.isDigit = true)
    (h : numberValue negative whole fraction exponent = .ok v) :
    (∃ i, v = .int i ∧ (Nat.toDigits 10 i.natAbs).length ≤ maxIntegerDigits) ∨
      ∃ x, v = .float x := by
  unfold numberValue at h
  split at h
  case h_1 =>
    split at h
    · cases h
    case isFalse hlength =>
      cases h
      refine .inl ⟨_, rfl, ?_⟩
      have hnat :
          (if negative = true then -(natOfDigits whole : Int) else natOfDigits whole).natAbs =
            natOfDigits whole := by split <;> simp
      have hlt := natOfDigits_lt hwhole.2
      have hpos := List.length_pos_iff.mpr hwhole.1
      rw [hnat]
      exact ((Nat.length_toDigits_le_iff (by decide) hpos).mpr hlt).trans (by omega)
  case h_2 =>
    cases h
    exact .inr ⟨_, rfl⟩

/-- What has been read as a number is an integer that is not too long, or a floating-point
number. -/
theorem scanNumber_cases {s r : List Char} {v : Value} (h : scanNumber s = .ok (v, r)) :
    (∃ i, v = .int i ∧ (Nat.toDigits 10 i.natAbs).length ≤ maxIntegerDigits) ∨
      ∃ x, v = .float x := by
  rw [scanNumber_eq] at h
  split at h
  · cases h
  case h_2 hwhole =>
    dsimp only at h
    split at h
    case h_1 hvalue =>
      cases h
      exact numberValue_cases (isDigit_of_wholePart? hwhole) hvalue
    case h_2 => cases h

/-! ## Written floating-point numbers -/

/-- The text of a number without its sign begins with a digit, and has number characters only. -/
theorem unsigned_eq_cons (l : Number.Layout) (digits : Nat) (exponent : Int) :
    ∃ d more, l.unsigned digits exponent = d :: more ∧ d.isDigit = true ∧
      ∀ c ∈ more, isNumberChar c = true := by
  unfold Number.Layout.unsigned Number.digitsOf
  generalize Number.stripZeros 20 digits exponent = stripped
  obtain ⟨d, more, hdigits, hd, hmore⟩ := exists_toDigits_eq_cons stripped.1
  have hmore' := fun c hc => isNumberChar_of_isDigit (hmore c hc)
  have hzeros : ∀ n, ∀ c ∈ List.replicate n '0', isNumberChar c = true := fun n c hc => by
    rw [List.eq_of_mem_replicate hc]
    rfl
  dsimp only
  rw [hdigits]
  generalize (if stripped.1 = 0 then 0 else stripped.2 + ((d :: more).length : Int) - 1) = power
  have hall : ∀ c ∈ d :: more, isNumberChar c = true :=
    List.forall_mem_cons.mpr ⟨isNumberChar_of_isDigit hd, hmore'⟩
  have hdrop : ∀ n, ∀ c ∈ (d :: more).drop n, isNumberChar c = true := fun n c hc =>
    hall c (List.mem_of_mem_drop hc)
  have hpower : ∀ c ∈ Number.padZeros l.exponentWidth (Nat.toDigits 10 power.natAbs),
      isNumberChar c = true :=
    List.forall_mem_append.mpr ⟨hzeros _, fun c hc =>
      isNumberChar_of_isDigit (forall_digitsOf_isDigit _ c hc)⟩
  have hsign : ∀ c ∈ ['e', if power < 0 then '-' else '+'], isNumberChar c = true := by
    split <;> exact List.all_eq_true.mp rfl
  split
  · split
    · refine ⟨'0', _, rfl, rfl, ?_⟩
      exact List.forall_mem_append.mpr ⟨List.forall_mem_append.mpr
        ⟨List.all_eq_true.mp rfl, hzeros _⟩, hall⟩
    · refine ⟨d, _, rfl, hd, ?_⟩
      refine List.forall_mem_append.mpr ⟨List.forall_mem_append.mpr
        ⟨List.forall_mem_append.mpr ⟨fun c hc => hmore' c (List.mem_of_mem_take hc), hzeros _⟩,
          List.all_eq_true.mp rfl⟩, ?_⟩
      split
      · exact List.all_eq_true.mp rfl
      · exact hdrop _
  · split
    · refine ⟨d, _, rfl, hd, ?_⟩
      exact List.forall_mem_append.mpr ⟨List.forall_mem_append.mpr ⟨hmore', hsign⟩, hpower⟩
    · refine ⟨d, _, rfl, hd, ?_⟩
      exact List.forall_mem_append.mpr ⟨List.forall_mem_append.mpr
        ⟨List.forall_mem_append.mpr ⟨by simp [isNumberChar], hdrop 1⟩, hsign⟩, hpower⟩

theorem isNumberText_floatText {x : Number.Binary64} (h : x.isFinite = true) :
    IsNumberText (floatText x).toList := by
  cases x with
  | nan => cases h
  | infinite => cases h
  | finite s m e hcanonical =>
    rw [floatText, Number.Layout.text, String.toList_ofList]
    obtain ⟨d, more, htext, hd, hmore⟩ := unsigned_eq_cons floatLayout
      (Number.shortest (.finite s m e hcanonical) s m e).digits
      (Number.shortest (.finite s m e hcanonical) s m e).exponent
    rw [htext]
    cases s with
    | true => exact .minus hd hmore
    | false => exact .plain hd hmore

end Workbench.Json
