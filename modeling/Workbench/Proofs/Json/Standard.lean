import Workbench.Proofs.Json.Roundtrip

/-!
# The standard grammar

The grammar of JSON texts as RFC 8259 has it. Main definition: `IsDocument`. The decoder reads
words for numbers that the grammar does not have, and the formatter writes them: a text of a value
is standard just if all floating-point numbers in the value are finite.
-/
namespace Workbench.Json

/-! ## The grammar -/

/-- One digit or more. -/
inductive IsDigits : List Char → Prop
  | mk {d more} (hdigit : d.isDigit = true) (hmore : ∀ c ∈ more, c.isDigit = true) :
      IsDigits (d :: more)

/-- The whole part of a number: a zero, or digits that do not begin with one. -/
inductive IsWhole : List Char → Prop
  | zero : IsWhole ['0']
  | digits {d more} (hdigit : d.isDigit = true) (hzero : d ≠ '0')
      (hmore : ∀ c ∈ more, c.isDigit = true) : IsWhole (d :: more)

/-- The fraction of a number, if it has one. -/
inductive IsFraction : List Char → Prop
  | absent : IsFraction []
  | point {ds} (hds : IsDigits ds) : IsFraction ('.' :: ds)

/-- The exponent of a number, if it has one. -/
inductive IsExponent : List Char → Prop
  | absent : IsExponent []
  | unsigned {e ds} (he : e = 'e' ∨ e = 'E') (hds : IsDigits ds) : IsExponent (e :: ds)
  | signed {e sign ds} (he : e = 'e' ∨ e = 'E') (hsign : sign = '+' ∨ sign = '-')
      (hds : IsDigits ds) : IsExponent (e :: sign :: ds)

/-- A number without its sign. -/
inductive IsMagnitude : List Char → Prop
  | mk {w f e} (hw : IsWhole w) (hf : IsFraction f) (he : IsExponent e) :
      IsMagnitude (w ++ (f ++ e))

inductive IsNumber : List Char → Prop
  | plain {s} (h : IsMagnitude s) : IsNumber s
  | minus {s} (h : IsMagnitude s) : IsNumber ('-' :: s)

/-- What may stand for a character inside quotes. -/
inductive IsCharText : List Char → Prop
  | plain {c} (hcontrol : 0x20 ≤ c.toNat) (hquote : c ≠ '"') (hbackslash : c ≠ '\\') :
      IsCharText [c]
  | escape {c} (hc : c ∈ ['"', '\\', '/', 'b', 'f', 'n', 'r', 't']) : IsCharText ['\\', c]
  | unicode {digits} (hlength : digits.length = 4)
      (hdigits : ∀ c ∈ digits, (hexDigit? c).isSome = true) : IsCharText ('\\' :: 'u' :: digits)

/-- The characters between quotes. -/
inductive IsCharsText : List Char → Prop
  | nil : IsCharsText []
  | cons {c s} (hc : IsCharText c) (hs : IsCharsText s) : IsCharsText (c ++ s)

inductive IsString : List Char → Prop
  | mk {s} (hs : IsCharsText s) : IsString ('"' :: (s ++ ['"']))

mutual

/-- A value in the standard grammar. -/
inductive IsStandard : List Char → Prop
  | word {w} (hw : w ∈ ["null".toList, "true".toList, "false".toList]) : IsStandard w
  | number {s} (hs : IsNumber s) : IsStandard s
  | string {s} (hs : IsString s) : IsStandard s
  | emptyArray {gap} (hgap : IsGap gap) : IsStandard ('[' :: (gap ++ [']']))
  | array {gap s rest} (hgap : IsGap gap) (hs : IsStandard s) (hrest : IsStandardItems rest) :
      IsStandard ('[' :: (gap ++ (s ++ rest)))
  | emptyObject {gap} (hgap : IsGap gap) : IsStandard ('\x7b' :: (gap ++ ['\x7d']))
  | object {gap s rest} (hgap : IsGap gap) (hs : IsStandardMember s)
      (hrest : IsStandardMembers rest) : IsStandard ('\x7b' :: (gap ++ (s ++ rest)))

/-- The items after the first, and the closing bracket. -/
inductive IsStandardItems : List Char → Prop
  | close {gap} (hgap : IsGap gap) : IsStandardItems (gap ++ [']'])
  | item {gap gap' s rest} (hgap : IsGap gap) (hgap' : IsGap gap') (hs : IsStandard s)
      (hrest : IsStandardItems rest) : IsStandardItems (gap ++ ',' :: (gap' ++ (s ++ rest)))

/-- A name, a colon and a value. -/
inductive IsStandardMember : List Char → Prop
  | mk {gap gap' name s} (hname : IsString name) (hgap : IsGap gap) (hgap' : IsGap gap')
      (hs : IsStandard s) : IsStandardMember (name ++ (gap ++ ':' :: (gap' ++ s)))

/-- The members after the first, and the closing brace. -/
inductive IsStandardMembers : List Char → Prop
  | close {gap} (hgap : IsGap gap) : IsStandardMembers (gap ++ ['\x7d'])
  | member {gap gap' s rest} (hgap : IsGap gap) (hgap' : IsGap gap') (hs : IsStandardMember s)
      (hrest : IsStandardMembers rest) : IsStandardMembers (gap ++ ',' :: (gap' ++ (s ++ rest)))

end

/-- A document: a value, with white space around it. -/
inductive IsDocument : List Char → Prop
  | mk {gap s gap'} (hgap : IsGap gap) (hs : IsStandard s) (hgap' : IsGap gap') :
      IsDocument (gap ++ (s ++ gap'))

theorem IsStandard.isDocument {s : List Char} (h : IsStandard s) : IsDocument s := by
  have hdocument := IsDocument.mk isGap_nil h isGap_nil
  rwa [List.nil_append, List.append_nil] at hdocument

/-! ## Written numbers -/

theorem isWhole_toDigits (n : Nat) : IsWhole (Nat.toDigits 10 n) := by
  by_cases hn : n = 0
  · subst hn
    exact .zero
  · obtain ⟨d, more, hdigits, hd, hmore⟩ := exists_toDigits_eq_cons n
    have hhead := head?_toDigits_ne_zero (Nat.pos_of_ne_zero hn)
    rw [hdigits] at hhead ⊢
    exact .digits hd (fun hzero => hhead (congrArg some hzero)) hmore

/-- Digits behind a whole part that is not zero belong to it. -/
theorem IsWhole.append {n : Nat} (hn : n ≠ 0) (k : Nat) {zeros : List Char}
    (hzeros : ∀ c ∈ zeros, c.isDigit = true) :
    IsWhole ((Nat.toDigits 10 n).take (k + 1) ++ zeros) := by
  obtain ⟨d, more, hdigits, hd, hmore⟩ := exists_toDigits_eq_cons n
  have hhead := head?_toDigits_ne_zero (Nat.pos_of_ne_zero hn)
  rw [hdigits] at hhead ⊢
  exact .digits hd (fun hzero => hhead (congrArg some hzero)) (List.forall_mem_append.mpr
    ⟨fun c hc => hmore c (List.mem_of_mem_take hc), hzeros⟩)

theorem isDigit_of_mem_zeros {n : Nat} {c : Char} (h : c ∈ List.replicate n '0') :
    c.isDigit = true := by
  rw [List.eq_of_mem_replicate h]
  rfl

/-- Digits with zeros in front are digits. -/
theorem isDigits_zeros_append (k n : Nat) :
    IsDigits (List.replicate k '0' ++ Nat.toDigits 10 n) := by
  obtain ⟨d, more, hdigits, hd, hmore⟩ := exists_toDigits_eq_cons n
  rw [hdigits]
  cases k with
  | zero => exact .mk hd hmore
  | succ k =>
    rw [List.replicate_succ, List.cons_append]
    exact .mk rfl (List.forall_mem_append.mpr
      ⟨fun c => isDigit_of_mem_zeros, List.forall_mem_cons.mpr ⟨hd, hmore⟩⟩)

theorem isDigits_of_ne_nil {ds : List Char} (hne : ds ≠ []) (h : ∀ c ∈ ds, c.isDigit = true) :
    IsDigits ds := by
  obtain ⟨d, more, rfl⟩ := List.exists_cons_of_ne_nil hne
  obtain ⟨hd, hmore⟩ := List.forall_mem_cons.mp h
  exact .mk hd hmore

/-- A number below one. -/
theorem isMagnitude_below (k n : Nat) :
    IsMagnitude (['0', '.'] ++ List.replicate k '0' ++ Nat.toDigits 10 n) := by
  have hfraction := IsFraction.point (isDigits_zeros_append k n)
  have hnumber := IsMagnitude.mk .zero hfraction .absent
  simpa using hnumber

/-- A number whose point stands among its digits or behind them. -/
theorem isMagnitude_above {n k : Nat} (h : n = 0 → k = 0) :
    let ds := Nat.toDigits 10 n
    IsMagnitude (ds.take (k + 1) ++ List.replicate (k + 1 - ds.length) '0' ++ ['.'] ++
      if (ds.drop (k + 1)).isEmpty then ['0'] else ds.drop (k + 1)) := by
  intro ds
  have hwhole : IsWhole (ds.take (k + 1) ++ List.replicate (k + 1 - ds.length) '0') := by
    by_cases hn : n = 0
    · obtain rfl := h hn
      subst hn
      exact .zero
    · exact .append hn k fun c => isDigit_of_mem_zeros
  have hfraction : IsFraction
      ('.' :: if (ds.drop (k + 1)).isEmpty then ['0'] else ds.drop (k + 1)) := by
    split
    case isTrue => exact .point (.mk rfl (by simp))
    case isFalse hback =>
      exact .point (isDigits_of_ne_nil (mt List.isEmpty_iff.mpr hback) fun c hc =>
        forall_digitsOf_isDigit n c (List.mem_of_mem_drop hc))
  have hnumber := IsMagnitude.mk hwhole hfraction .absent
  simpa using hnumber

/-- A number with an exponent. -/
theorem isMagnitude_scientific (n : Nat) {e : List Char} (he : IsExponent e) :
    let ds := Nat.toDigits 10 n
    IsMagnitude ((if ds.length ≤ 1 then ds else ds.take 1 ++ ['.'] ++ ds.drop 1) ++ e) := by
  intro ds
  split
  case isTrue => exact .mk (isWhole_toDigits n) .absent he
  case isFalse hlong =>
    have hn : n ≠ 0 := by
      rintro rfl
      exact hlong (Nat.le_refl _)
    have hwhole : IsWhole (ds.take 1) := by
      have hnone : ∀ c ∈ ([] : List Char), c.isDigit = true := by simp
      simpa using IsWhole.append hn 0 hnone
    have hback : ds.drop 1 ≠ [] := fun hnil => by
      have hlength := congrArg List.length hnil
      rw [List.length_drop, List.length_nil] at hlength
      omega
    have hfraction := IsFraction.point (isDigits_of_ne_nil hback fun c hc =>
      forall_digitsOf_isDigit n c (List.mem_of_mem_drop hc))
    have hnumber := IsMagnitude.mk hwhole hfraction he
    simpa using hnumber

/-- However a number is laid out, its text without the sign is standard. -/
theorem isMagnitude_unsigned (l : Number.Layout) (digits : Nat) (exponent : Int) :
    IsMagnitude (l.unsigned digits exponent) := by
  unfold Number.Layout.unsigned Number.digitsOf
  generalize Number.stripZeros 20 digits exponent = stripped
  obtain ⟨n, e⟩ := stripped
  dsimp only
  have hzero : n = 0 → (if n = 0 then 0 else e + ((Nat.toDigits 10 n).length : Int) - 1) = 0 :=
    fun hn => if_pos hn
  generalize (if n = 0 then 0 else e + ((Nat.toDigits 10 n).length : Int) - 1) = power at hzero ⊢
  split
  case isTrue =>
    split
    case isTrue => exact isMagnitude_below _ n
    case isFalse => exact isMagnitude_above fun hn => by rw [hzero hn]; rfl
  case isFalse =>
    have hsign : (if power < 0 then '-' else '+') = '+' ∨
        (if power < 0 then '-' else '+') = '-' := by
      split
      · exact .inr rfl
      · exact .inl rfl
    rw [List.append_assoc]
    exact isMagnitude_scientific n (.signed (.inl rfl) hsign (isDigits_zeros_append _ _))

theorem isNumber_floatText {x : Number.Binary64} (h : x.isFinite = true) :
    IsNumber (floatText x).toList := by
  cases x with
  | nan => cases h
  | infinite => cases h
  | finite negative m e hcanonical =>
    rw [floatText, Number.Layout.text, String.toList_ofList]
    cases negative with
    | true => exact .minus (isMagnitude_unsigned _ _ _)
    | false => exact .plain (isMagnitude_unsigned _ _ _)

theorem isNumber_integerText (i : Int) : IsNumber (integerText i).toList := by
  have hmagnitude : IsMagnitude (Nat.toDigits 10 i.natAbs) := by
    have h := IsMagnitude.mk (isWhole_toDigits i.natAbs) .absent .absent
    rwa [List.append_nil, List.append_nil] at h
  rw [integerText_toList]
  split
  · exact .minus hmagnitude
  · exact .plain hmagnitude

/-! ## Written strings -/

theorem isCharText_encodeChar (c : Char) : IsCharText (encodeChar c) := by
  unfold encodeChar
  split_ifs with hquote hbackslash hline hreturn htab hback hfeed hcontrol
  · exact .escape (by decide)
  · exact .escape (by decide)
  · exact .escape (by decide)
  · exact .escape (by decide)
  · exact .escape (by decide)
  · exact .escape (by decide)
  · exact .escape (by decide)
  · refine .unicode rfl ?_
    have hhigh := hexDigit?_hexChar (c.toNat / 16) (by omega)
    have hlow := hexDigit?_hexChar (c.toNat % 16) (by omega)
    simp [hhigh, hlow, show (hexDigit? '0').isSome = true from rfl]
  · exact .plain (by omega) hquote hbackslash

theorem isCharsText_encoded (cs : List Char) : IsCharsText (cs.flatMap encodeChar) := by
  induction cs with
  | nil => exact .nil
  | cons c cs ih =>
    rw [List.flatMap_cons]
    exact .cons (isCharText_encodeChar c) ih

theorem isString_quote (s : String) : IsString (quote s).toList := by
  rw [quote_toList]
  exact .mk (isCharsText_encoded s.toList)

/-! ## Written values -/

mutual

/-- A text of a value is standard if the value holds no number that the grammar does not have. -/
theorem IsTextOf.isStandard : ∀ {v : Value} {s : List Char}, IsTextOf v s →
    hasNonFinite v = false → IsStandard s
  | _, _, .null, _ => .word (by simp)
  | _, _, .bool b, _ => .word (by cases b <;> simp)
  | _, _, .int i, _ => .number (isNumber_integerText i)
  | _, _, .float x, hfinite => .number (isNumber_floatText (by simpa [hasNonFinite] using hfinite))
  | _, _, .string t, _ => .string (isString_quote t)
  | _, _, .emptyArray hgap, _ => .emptyArray hgap
  | _, _, .array hgap hv hvs, hfinite => by
    rw [hasNonFinite, anyNonFinite, Bool.or_eq_false_iff] at hfinite
    exact .array hgap (hv.isStandard hfinite.1) (hvs.isStandardItems hfinite.2)
  | _, _, .emptyObject hgap, _ => .emptyObject hgap
  | _, _, .object hgap hm hms, hfinite => by
    rw [hasNonFinite, anyNonFiniteMember, Bool.or_eq_false_iff] at hfinite
    exact .object hgap (hm.isStandardMember hfinite.1) (hms.isStandardMembers hfinite.2)

theorem IsItemsText.isStandardItems : ∀ {vs : List Value} {s : List Char}, IsItemsText vs s →
    anyNonFinite vs = false → IsStandardItems s
  | _, _, .close hgap, _ => .close hgap
  | _, _, .item hgap hgap' hv hvs, hfinite => by
    rw [anyNonFinite, Bool.or_eq_false_iff] at hfinite
    exact .item hgap hgap' (hv.isStandard hfinite.1) (hvs.isStandardItems hfinite.2)

theorem IsMemberText.isStandardMember : ∀ {m : String × Value} {s : List Char}, IsMemberText m s →
    hasNonFinite m.2 = false → IsStandardMember s
  | _, _, .mk hgap hgap' hv, hfinite =>
    .mk (isString_quote _) hgap hgap' (hv.isStandard hfinite)

theorem IsMembersText.isStandardMembers : ∀ {ms : List (String × Value)} {s : List Char},
    IsMembersText ms s → anyNonFiniteMember ms = false → IsStandardMembers s
  | _, _, .close hgap, _ => .close hgap
  | _, _, .member hgap hgap' hm hms, hfinite => by
    rw [anyNonFiniteMember, Bool.or_eq_false_iff] at hfinite
    exact .member hgap hgap' (hm.isStandardMember hfinite.1) (hms.isStandardMembers hfinite.2)

end

/-! ## Outside quotes -/

/-- Where a character stands. -/
inductive Zone where
  | outside
  | inside
  /-- Inside quotes, behind a backslash. -/
  | escaped

def Zone.next : Zone → Char → Zone
  | .outside, c => if c = '"' then .inside else .outside
  | .inside, c => if c = '"' then .outside else if c = '\\' then .escaped else .inside
  | .escaped, _ => .inside

/-- Does a capital letter stand outside quotes with which the words for numbers begin that are
none? -/
def marked : Zone → List Char → Bool
  | _, [] => false
  | .outside, c :: s => c == 'N' || c == 'I' || marked (Zone.outside.next c) s
  | z, c :: s => marked (z.next c) s

theorem marked_append (z : Zone) (s t : List Char) :
    marked z (s ++ t) = (marked z s || marked (s.foldl Zone.next z) t) := by
  induction s generalizing z with
  | nil => cases z <;> rfl
  | cons c s ih => cases z <;> simp [marked, ih, Bool.or_assoc]

/-- A text that begins and ends outside quotes is marked or not. -/
structure IsMarked (s : List Char) (mark : Bool) : Prop where
  closed : s.foldl Zone.next .outside = .outside
  marked_eq : marked .outside s = mark

namespace IsMarked

variable {s t : List Char} {m n : Bool}

theorem append (hs : IsMarked s m) (ht : IsMarked t n) : IsMarked (s ++ t) (m || n) where
  closed := by rw [List.foldl_append, hs.closed, ht.closed]
  marked_eq := by rw [marked_append, hs.closed, hs.marked_eq, ht.marked_eq]

theorem nil : IsMarked [] false := ⟨rfl, rfl⟩

theorem cons {c : Char} (hquote : c ≠ '"') (hc : (c == 'N' || c == 'I') = false)
    (ht : IsMarked t n) : IsMarked (c :: t) n where
  closed := by rw [List.foldl_cons, Zone.next, if_neg hquote, ht.closed]
  marked_eq := by rw [marked, hc, Bool.false_or, Zone.next, if_neg hquote, ht.marked_eq]

/-- Neither quotes nor capital letters. -/
theorem of_forall (h : ∀ c ∈ s, c ≠ '"' ∧ (c == 'N' || c == 'I') = false) : IsMarked s false := by
  induction s with
  | nil => exact nil
  | cons c s ih =>
    obtain ⟨⟨hquote, hc⟩, hs⟩ := List.forall_mem_cons.mp h
    exact cons hquote hc (ih hs)

theorem of_isGap (h : IsGap s) : IsMarked s false := by
  refine of_forall fun c hc => ?_
  have hspace := h c hc
  simp only [isSpace, Bool.or_eq_true, beq_iff_eq] at hspace
  obtain ((rfl | rfl) | rfl) | rfl := hspace <;> decide

theorem of_isNumberChar (h : ∀ c ∈ s, isNumberChar c = true) : IsMarked s false := by
  refine of_forall fun c hc => ?_
  have hnumber := h c hc
  have hne : ∀ d, isNumberChar d = false → c ≠ d := by
    rintro d hd rfl
    rw [hnumber] at hd
    cases hd
  exact ⟨hne _ rfl, by simp [hne 'N' rfl, hne 'I' rfl]⟩

end IsMarked

/-! ## Inside quotes -/

/-- A text that stays inside quotes, where nothing is marked. -/
structure IsQuoted (s : List Char) : Prop where
  open_ : s.foldl Zone.next .inside = .inside
  marked_eq : marked .inside s = false

namespace IsQuoted

variable {s t : List Char}

theorem append (hs : IsQuoted s) (ht : IsQuoted t) : IsQuoted (s ++ t) where
  open_ := by rw [List.foldl_append, hs.open_, ht.open_]
  marked_eq := by rw [marked_append, hs.open_, hs.marked_eq, ht.marked_eq, Bool.or_false]

theorem cons {c : Char} (hquote : c ≠ '"') (hbackslash : c ≠ '\\') (ht : IsQuoted t) :
    IsQuoted (c :: t) where
  open_ := by rw [List.foldl_cons, Zone.next, if_neg hquote, if_neg hbackslash, ht.open_]
  marked_eq := by rw [marked, Zone.next, if_neg hquote, if_neg hbackslash, ht.marked_eq]; simp

theorem escape (c : Char) (ht : IsQuoted t) : IsQuoted ('\\' :: c :: t) where
  open_ := ht.open_
  marked_eq := ht.marked_eq

theorem of_forall (h : ∀ c ∈ s, c ≠ '"' ∧ c ≠ '\\') : IsQuoted s := by
  induction s with
  | nil => exact ⟨rfl, rfl⟩
  | cons c s ih =>
    obtain ⟨⟨hquote, hbackslash⟩, hs⟩ := List.forall_mem_cons.mp h
    exact cons hquote hbackslash (ih hs)

end IsQuoted

theorem IsCharText.isQuoted {s : List Char} (h : IsCharText s) : IsQuoted s := by
  cases h with
  | plain hcontrol hquote hbackslash => exact .cons hquote hbackslash ⟨rfl, rfl⟩
  | escape => exact .escape _ ⟨rfl, rfl⟩
  | unicode hlength hdigits =>
    refine .escape _ (.of_forall fun c hc => ⟨?_, ?_⟩) <;>
      · rintro rfl
        cases hdigits _ hc

theorem IsCharsText.isQuoted {s : List Char} (h : IsCharsText s) : IsQuoted s := by
  induction h with
  | nil => exact ⟨rfl, rfl⟩
  | cons hc _ ih => exact hc.isQuoted.append ih

theorem IsString.isMarked {s : List Char} (h : IsString s) : IsMarked s false := by
  obtain ⟨hs⟩ := h
  have hquoted := hs.isQuoted
  refine ⟨?_, ?_⟩
  · rw [List.foldl_cons, List.foldl_append]
    change List.foldl _ (List.foldl _ Zone.inside _) _ = _
    rw [hquoted.open_]
    rfl
  · change marked .inside _ = false
    rw [marked_append, hquoted.marked_eq, hquoted.open_]
    rfl

/-! ## Which texts are marked -/

theorem IsDigits.forall_isNumberChar {s : List Char} (h : IsDigits s) :
    ∀ c ∈ s, isNumberChar c = true := by
  obtain ⟨hdigit, hmore⟩ := h
  exact List.forall_mem_cons.mpr ⟨isNumberChar_of_isDigit hdigit,
    fun c hc => isNumberChar_of_isDigit (hmore c hc)⟩

theorem IsMagnitude.forall_isNumberChar {s : List Char} (h : IsMagnitude s) :
    ∀ c ∈ s, isNumberChar c = true := by
  obtain ⟨hw, hf, he⟩ := h
  refine List.forall_mem_append.mpr ⟨?_, List.forall_mem_append.mpr ⟨?_, ?_⟩⟩
  · cases hw with
    | zero => exact List.forall_mem_singleton.mpr rfl
    | digits hdigit _ hmore => exact (IsDigits.mk hdigit hmore).forall_isNumberChar
  · cases hf with
    | absent => exact List.forall_mem_nil _
    | point hds => exact List.forall_mem_cons.mpr ⟨rfl, hds.forall_isNumberChar⟩
  · cases he with
    | absent => exact List.forall_mem_nil _
    | unsigned he hds =>
      refine List.forall_mem_cons.mpr ⟨?_, hds.forall_isNumberChar⟩
      obtain rfl | rfl := he <;> rfl
    | signed he hsign hds =>
      refine List.forall_mem_cons.mpr ⟨?_, List.forall_mem_cons.mpr ⟨?_, hds.forall_isNumberChar⟩⟩
      · obtain rfl | rfl := he <;> rfl
      · obtain rfl | rfl := hsign <;> rfl

theorem IsNumber.forall_isNumberChar {s : List Char} (h : IsNumber s) :
    ∀ c ∈ s, isNumberChar c = true := by
  cases h with
  | plain h => exact h.forall_isNumberChar
  | minus h => exact List.forall_mem_cons.mpr ⟨rfl, h.forall_isNumberChar⟩

namespace IsMarked

variable {g t : List Char} {n : Bool}

theorem gap (hgap : IsGap g) (ht : IsMarked t n) : IsMarked (g ++ t) n :=
  (of_isGap hgap).append ht

/-- A comma, a colon or a bracket. -/
theorem token {c : Char} (hc : c ∈ [',', ':', '[', ']', '\x7b', '\x7d']) (ht : IsMarked t n) :
    IsMarked (c :: t) n := by
  simp only [List.mem_cons, List.not_mem_nil, or_false] at hc
  obtain rfl | rfl | rfl | rfl | rfl | rfl := hc <;> exact cons (by decide) rfl ht

end IsMarked

mutual

/-- Nothing in the standard grammar is marked. -/
theorem IsStandard.isMarked : ∀ {s : List Char}, IsStandard s → IsMarked s false
  | _, .word hw => by
    simp only [List.mem_cons, List.not_mem_nil, or_false] at hw
    obtain rfl | rfl | rfl := hw <;> exact ⟨rfl, rfl⟩
  | _, .number hs => .of_isNumberChar hs.forall_isNumberChar
  | _, .string hs => hs.isMarked
  | _, .emptyArray hgap => .token (by simp) (.gap hgap (.token (by simp) .nil))
  | _, .array hgap hs hrest => .token (by simp) (.gap hgap (hs.isMarked.append hrest.isMarked))
  | _, .emptyObject hgap => .token (by simp) (.gap hgap (.token (by simp) .nil))
  | _, .object hgap hs hrest => .token (by simp) (.gap hgap (hs.isMarked.append hrest.isMarked))

theorem IsStandardItems.isMarked : ∀ {s : List Char}, IsStandardItems s → IsMarked s false
  | _, .close hgap => .gap hgap (.token (by simp) .nil)
  | _, .item hgap hgap' hs hrest =>
    .gap hgap (.token (by simp) (.gap hgap' (hs.isMarked.append hrest.isMarked)))

theorem IsStandardMember.isMarked : ∀ {s : List Char}, IsStandardMember s → IsMarked s false
  | _, .mk hname hgap hgap' hs =>
    hname.isMarked.append (.gap hgap (.token (by simp) (.gap hgap' hs.isMarked)))

theorem IsStandardMembers.isMarked : ∀ {s : List Char}, IsStandardMembers s → IsMarked s false
  | _, .close hgap => .gap hgap (.token (by simp) .nil)
  | _, .member hgap hgap' hs hrest =>
    .gap hgap (.token (by simp) (.gap hgap' (hs.isMarked.append hrest.isMarked)))

end

theorem IsDocument.isMarked {s : List Char} (h : IsDocument s) : IsMarked s false := by
  obtain ⟨hgap, hs, hgap'⟩ := h
  exact .gap hgap (hs.isMarked.append (.of_isGap hgap'))

theorem isMarked_floatText (x : Number.Binary64) :
    IsMarked (floatText x).toList (hasNonFinite (.float x)) := by
  cases x with
  | nan => exact ⟨rfl, rfl⟩
  | infinite negative => cases negative <;> exact ⟨rfl, rfl⟩
  | finite => exact .of_isNumberChar (isNumber_floatText rfl).forall_isNumberChar

mutual

/-- A text of a value is marked just if the value holds a number that the grammar does not have. -/
theorem IsTextOf.isMarked : ∀ {v : Value} {s : List Char}, IsTextOf v s →
    IsMarked s (hasNonFinite v)
  | _, _, .null => ⟨rfl, rfl⟩
  | _, _, .bool b => by cases b <;> exact ⟨rfl, rfl⟩
  | _, _, .int i => .of_isNumberChar (isNumber_integerText i).forall_isNumberChar
  | _, _, .float x => isMarked_floatText x
  | _, _, .string t => (isString_quote t).isMarked
  | _, _, .emptyArray hgap => .token (by simp) (.gap hgap (.token (by simp) .nil))
  | _, _, .array hgap hv hvs => .token (by simp) (.gap hgap (hv.isMarked.append hvs.isMarked))
  | _, _, .emptyObject hgap => .token (by simp) (.gap hgap (.token (by simp) .nil))
  | _, _, .object hgap hm hms => .token (by simp) (.gap hgap (hm.isMarked.append hms.isMarked))

theorem IsItemsText.isMarked : ∀ {vs : List Value} {s : List Char}, IsItemsText vs s →
    IsMarked s (anyNonFinite vs)
  | _, _, .close hgap => .gap hgap (.token (by simp) .nil)
  | _, _, .item hgap hgap' hv hvs =>
    .gap hgap (.token (by simp) (.gap hgap' (hv.isMarked.append hvs.isMarked)))

theorem IsMemberText.isMarked : ∀ {m : String × Value} {s : List Char}, IsMemberText m s →
    IsMarked s (hasNonFinite m.2)
  | _, _, .mk hgap hgap' hv =>
    (isString_quote _).isMarked.append (.gap hgap (.token (by simp) (.gap hgap' hv.isMarked)))

theorem IsMembersText.isMarked : ∀ {ms : List (String × Value)} {s : List Char},
    IsMembersText ms s → IsMarked s (anyNonFiniteMember ms)
  | _, _, .close hgap => .gap hgap (.token (by simp) .nil)
  | _, _, .member hgap hgap' hm hms =>
    .gap hgap (.token (by simp) (.gap hgap' (hm.isMarked.append hms.isMarked)))

end

/-- A text of a value is a standard document just if all floating-point numbers in it are finite. -/
theorem IsTextOf.isDocument_iff {v : Value} {s : List Char} (h : IsTextOf v s) :
    IsDocument s ↔ hasNonFinite v = false := by
  constructor
  · intro hdocument
    exact h.isMarked.marked_eq.symm.trans hdocument.isMarked.marked_eq
  · intro hfinite
    exact (h.isStandard hfinite).isDocument

end Workbench.Json
