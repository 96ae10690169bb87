import Workbench.Json.Decode
import Workbench.Json.Encode

/-!
# Strings in JSON texts

A text in quotes is read back as it stands, whatever characters it has.
-/
namespace Workbench.Json

theorem hexDigit?_hexChar : ∀ n < 16, hexDigit? (hexChar n) = some n := by
  decide

/-- The escape of a control character, with something behind it, is that character. -/
theorem unicodeEscape_control {c : Char} (hc : c.toNat < 0x20) {rest : List Char}
    (hrest : rest ≠ []) :
    unicodeEscape ('0' :: '0' :: hexChar (c.toNat / 16) :: hexChar (c.toNat % 16) :: rest) =
      .ok (c, 4) := by
  have hlength : 0 < rest.length := List.length_pos_iff.mpr hrest
  have hfour : hexFour? ('0' :: '0' :: hexChar (c.toNat / 16) :: hexChar (c.toNat % 16) :: rest) =
      some c.toNat := by
    have hzero : hexDigit? '0' = some 0 := rfl
    have hhigh := hexDigit?_hexChar (c.toNat / 16) (by omega)
    have hlow := hexDigit?_hexChar (c.toNat % 16) (by omega)
    simp only [hexFour?, hzero, hhigh, hlow, Option.bind_eq_bind, Option.bind_some,
      Option.pure_def, Option.some.injEq]
    omega
  have hplain : isHighSurrogate c.toNat = false := by
    simp [isHighSurrogate]
    omega
  have hunit : charOfUnit c.toNat = c := by
    rw [charOfUnit, if_pos (show c.toNat.isValidChar from c.valid), Char.ofNat_toNat]
  unfold unicodeEscape
  rw [if_neg (by simp only [List.length_cons]; omega), hfour]
  dsimp only
  split
  · rw [hplain, hunit]
    rfl
  · rw [hunit]

/-- Reading a character in its written form is reading that character. -/
theorem stringRest_encodeChar (opened : Nat) (c : Char) {rest : List Char} (hrest : rest ≠ [])
    (read : List Char) :
    stringRest opened 0 (encodeChar c ++ rest) read = stringRest opened 0 rest (c :: read) := by
  by_cases hquote : c = '"'
  · subst hquote
    rfl
  by_cases hbackslash : c = '\\'
  · subst hbackslash
    rfl
  by_cases hline : c = '\n'
  · subst hline
    rfl
  by_cases hreturn : c = '\r'
  · subst hreturn
    rfl
  by_cases htab : c = '\t'
  · subst htab
    rfl
  by_cases hback : c = '\x08'
  · subst hback
    rfl
  by_cases hfeed : c = '\x0c'
  · subst hfeed
    rfl
  by_cases hcontrol : c.toNat < 0x20
  · have hescape := unicodeEscape_control hcontrol hrest
    simp [encodeChar, hquote, hbackslash, hline, hreturn, htab, hback, hfeed, hcontrol, stringRest,
      escape, hescape]
  · simp [encodeChar, hquote, hbackslash, hline, hreturn, htab, hback, hfeed, hcontrol, stringRest]

theorem stringRest_flatMap (opened : Nat) (cs rest read : List Char) :
    stringRest opened 0 (cs.flatMap encodeChar ++ '"' :: rest) read =
      .ok (String.ofList (read.reverse ++ cs), rest) := by
  induction cs generalizing read with
  | nil => simp [stringRest]
  | cons c cs ih =>
    rw [List.flatMap_cons, List.append_assoc, stringRest_encodeChar opened c (by simp), ih]
    simp

/-- Reading a text in quotes, after the opening one, gives the text. -/
theorem scanString_quoted (s : String) (rest : List Char) :
    scanString (s.toList.flatMap encodeChar ++ '"' :: rest) = .ok (s, rest) := by
  rw [scanString, stringRest_flatMap]
  simp

theorem quote_toList (s : String) :
    (quote s).toList = '"' :: (s.toList.flatMap encodeChar ++ ['"']) := by
  simp [quote, quoteChars]

end Workbench.Json
