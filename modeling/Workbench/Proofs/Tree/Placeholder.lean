import Workbench.Proofs.Tree.Depth
import Workbench.Proofs.Tree.View

/-!
# Placeholders

Whatever the output is, the tree view shows something for it, and what it shows tells why: a text
that is blank, one that does not decode and one that nests too deep have placeholders of their
own, which are no text of any value.
-/
namespace Workbench.Json

/-! ## Capital letters -/

theorem isUpper_eq_false_of_isDigit {c : Char} (h : c.isDigit = true) : c.isUpper = false := by
  rw [Char.isDigit_iff_toNat] at h
  refine Bool.eq_false_iff.mpr fun hupper => ?_
  have hbounds : 'A'.val ≤ c.val ∧ c.val ≤ 'Z'.val := of_decide_eq_true hupper
  have hA : 'A'.val.toNat ≤ c.toNat := UInt32.le_iff_toNat_le.mp hbounds.1
  have hvalue : 'A'.val.toNat = 65 := rfl
  have hnine : '9'.toNat = 57 := rfl
  omega

theorem IsNumberText.not_isUpper {s more : List Char} {c : Char} (h : IsNumberText s)
    (hs : s = c :: more) : c.isUpper = false := by
  cases h with
  | plain hdigit =>
    cases hs
    exact isUpper_eq_false_of_isDigit hdigit
  | minus =>
    cases hs
    rfl

/-- Of the texts of values only those of two numbers begin with a capital letter. -/
theorem IsTextOf.eq_of_isUpper {v : Value} {s more : List Char} {c : Char} (h : IsTextOf v s)
    (hs : s = c :: more) (hc : c.isUpper = true) : s = "NaN".toList ∨ s = "Infinity".toList := by
  have hnumber : ¬ IsNumberText s := fun hnumber => by
    rw [hnumber.not_isUpper hs] at hc
    cases hc
  have hother : ∀ {d more'}, s = d :: more' → d.isUpper = false → False := fun hs' hd => by
    cases hs'.symm.trans hs
    rw [hd] at hc
    cases hc
  cases h with
  | null => exact (hother rfl rfl).elim
  | bool b => cases b <;> exact (hother rfl rfl).elim
  | int i => exact absurd (isNumberText_integerText i) hnumber
  | float x =>
    cases x with
    | nan => exact .inl rfl
    | infinite negative =>
      cases negative with
      | true => exact (hother rfl rfl).elim
      | false => exact .inr rfl
    | finite => exact absurd (isNumberText_floatText rfl) hnumber
  | string t => exact (hother (quote_toList t) rfl).elim
  | emptyArray => exact (hother rfl rfl).elim
  | array => exact (hother rfl rfl).elim
  | emptyObject => exact (hother rfl rfl).elim
  | object => exact (hother rfl rfl).elim

/-- A sentence that begins like neither of those is not how a text of a value begins. -/
theorem IsTextOf.not_starts {v : Value} {s word more : List Char} {c : Char} (h : IsTextOf v s)
    (hword : word = c :: more) (hc : c.isUpper = true) (hnan : ¬ word <+: "NaN".toList)
    (hinfinity : ¬ word <+: "Infinity".toList) : ¬ word <+: s := by
  intro hstarts
  obtain ⟨rest, hs⟩ := hstarts
  rw [hword, List.cons_append] at hs
  obtain heq | heq := h.eq_of_isUpper hs.symm hc
  · exact hnan ⟨rest, by rw [hword, List.cons_append, hs, heq]⟩
  · exact hinfinity ⟨rest, by rw [hword, List.cons_append, hs, heq]⟩

end Workbench.Json

namespace Workbench.Tree

/-! ## The wording -/

/-- How the refusal of a text that does not decode begins. -/
def refused : String := "Invalid JSON: "

/-- How the refusal of a value that nests too deep begins. -/
def withheld : String := "Cannot display: "

theorem isShown_toString_nat (n : Nat) : Json.IsShown (toString n).toList := by
  intro c hc
  rw [Nat.toString_eq_repr, Nat.toList_repr] at hc
  have hdigit := Json.forall_digitsOf_isDigit n c hc
  refine Bool.eq_false_iff.mpr fun hdropped => ?_
  simp only [Styled.isDropped, Bool.or_eq_true, beq_iff_eq] at hdropped
  obtain (((rfl | rfl) | rfl) | rfl) | rfl := hdropped <;> cases hdigit

/-- A number in a sentence is shown along with what stands around it. -/
theorem isShown_number {s t : String} (hs : Json.IsShown s.toList) (n : Nat)
    (ht : Json.IsShown t.toList) : Json.IsShown (s ++ toString n ++ t).toList := by
  rw [String.toList_append, String.toList_append]
  exact (hs.append (isShown_toString_nat n)).append ht

/-- The characters of a fixed wording are looked at one by one. -/
theorem isShown_ofList {cs : List Char} (h : cs.all (!Styled.isDropped ·) = true) :
    Json.IsShown (String.ofList cs).toList := by
  rw [String.toList_ofList]
  exact Json.isShown_of_all h

theorem isShown_message (e : Json.DecodeError) : Json.IsShown e.message.toList := by
  cases e with
  | malformed fault place =>
    have hfault : Json.IsShown fault.message.toList := by cases fault <;> exact isShown_ofList rfl
    have hline : Json.IsShown (fault.message ++ ": line ").toList := by
      rw [String.toList_append]
      exact hfault.append (isShown_ofList rfl)
    have hplace := isShown_number hline place.line (t := " column ") (isShown_ofList rfl)
    have hoffset := isShown_number hplace place.column (t := " (char ") (isShown_ofList rfl)
    exact isShown_number hoffset place.offset (isShown_ofList rfl)
  | longInteger digits =>
    have hlimit : Json.IsShown ("Exceeds the limit (" ++ toString Json.maxIntegerDigits ++
        " digits) for integer string conversion: value has ").toList :=
      isShown_number (isShown_ofList rfl) Json.maxIntegerDigits (isShown_ofList rfl)
    exact isShown_number hlimit digits (isShown_ofList rfl)
  | tooDeep container => cases container <;> exact isShown_ofList rfl

theorem refusal_starts (e : Json.DecodeError) : refused.toList <+: (refusal e).toList := by
  unfold refusal
  split
  · exact ⟨"nesting too deep to decode".toList, rfl⟩
  · rw [String.toList_append]
    exact List.prefix_append _ _

theorem isShown_refusal (e : Json.DecodeError) : Json.IsShown (refusal e).toList := by
  unfold refusal
  split
  · exact Json.isShown_of_all rfl
  · rw [String.toList_append]
    exact (Json.isShown_of_all rfl).append (isShown_message e)

theorem isShown_noData : Json.IsShown noData.toList := by
  rw [noData]
  exact isShown_ofList rfl

theorem isShown_withheld (limit : Int) :
    Json.IsShown (withheld ++ (DepthExceeded.mk limit).message).toList := by
  have hopening : Json.IsShown withheld.toList := by
    rw [withheld]
    exact isShown_ofList rfl
  have hreason : Json.IsShown "JSON nesting exceeds maximum render depth of ".toList :=
    isShown_ofList rfl
  have hlimit : Json.IsShown (toString limit).toList :=
    Json.isShown_of_isNumberText (Json.isNumberText_integerText limit)
  have hmessage : (DepthExceeded.mk limit).message =
      "JSON nesting exceeds maximum render depth of " ++ toString limit := rfl
  rw [String.toList_append, hmessage, String.toList_append]
  exact hopening.append (hreason.append hlimit)

theorem withholding_starts (e : DepthExceeded) :
    withheld.toList <+: (withheld ++ e.message).toList := by
  rw [String.toList_append]
  exact List.prefix_append _ _

/-! ## Telling placeholders apart -/

/-- How the placeholders begin. -/
def openings : List String := [noData, refused, withheld]

/-- No two of the placeholders begin alike. -/
theorem opening_unique {w w' s : String} (hw : w ∈ openings) (hw' : w' ∈ openings)
    (h : w.toList <+: s.toList) (h' : w'.toList <+: s.toList) : w = w' := by
  have hapart : ∀ w ∈ openings, ∀ w' ∈ openings, w.toList <+: w'.toList → w = w' := by decide
  obtain hle | hle := List.prefix_or_prefix_of_prefix h h'
  · exact hapart w hw w' hw' hle
  · exact (hapart w' hw' w hw hle).symm

/-- No value is written like a placeholder. -/
theorem not_opening_of_isTextOf {v : Json.Value} {s : List Char} (h : Json.IsTextOf v s)
    {w : String} (hw : w ∈ openings) : ¬ w.toList <+: s := by
  simp only [openings, List.mem_cons, List.not_mem_nil, or_false] at hw
  obtain rfl | rfl | rfl := hw
  · exact h.not_starts rfl rfl (by decide) (by decide)
  · exact h.not_starts rfl rfl (by decide) (by decide)
  · exact h.not_starts rfl rfl (by decide) (by decide)

/-! ## What is shown -/

/-- What the tree view shows of a text, with the reason for it. -/
inductive Showing (text : String) (indent : Nat) (maxDepth : Option Int) : String → Prop
  | blank (hblank : Text.isBlank text = true) : Showing text indent maxDepth noData
  | refused {e} (hblank : Text.isBlank text = false) (h : Json.decode text = .error e) :
      Showing text indent maxDepth (refusal e)
  | withheld {v limit} (h : Json.decode text = .ok v) (hlimit : maxDepth = some limit)
      (hdeep : limit < (Node.ofJson v).nesting) :
      Showing text indent maxDepth (withheld ++ (DepthExceeded.mk limit).message)
  | value {v} (h : Json.decode text = .ok v)
      (hfits : ∀ limit, maxDepth = some limit → ((Node.ofJson v).nesting : Int) ≤ limit) :
      Showing text indent maxDepth (Json.indented indent v)

theorem showing_viewOutput (text : String) (indent : Nat) (maxDepth : Option Int) :
    Showing text indent maxDepth (viewOutput text indent maxDepth).plain := by
  cases hblank : Text.isBlank text with
  | true =>
    rw [viewOutput, if_pos hblank, Styled.Text.ofString, Styled.clean_of_isShown isShown_noData]
    exact .blank hblank
  | false =>
    cases hdecode : Json.decode text with
    | error e =>
      rw [viewOutput, hblank, if_neg Bool.false_ne_true, hdecode]
      dsimp only [Styled.Text.ofString]
      rw [Styled.clean_of_isShown (isShown_refusal e)]
      exact .refused hblank hdecode
    | ok v =>
      by_cases hfits : ∀ limit, maxDepth = some limit → ((Node.ofJson v).nesting : Int) ≤ limit
      · rw [plain_viewOutput hdecode indent hfits]
        exact .value hdecode hfits
      · obtain ⟨limit, hfits⟩ := Classical.not_forall.mp hfits
        obtain ⟨hlimit, hdeep⟩ := Classical.not_imp.mp hfits
        have hdeep : limit < (Node.ofJson v).nesting := Int.not_le.mp hdeep
        have hrender : renderStyled (.ofJson v) 0 indent maxDepth = .error ⟨limit⟩ := by
          rw [renderStyled, hlimit, renderSpans_eq_error _ _ _ hdeep]
          rfl
        rw [viewOutput, hblank, if_neg Bool.false_ne_true, hdecode]
        dsimp only
        rw [hrender]
        dsimp only [Styled.Text.ofString]
        rw [← withheld, Styled.clean_of_isShown (isShown_withheld limit)]
        exact .withheld hdecode hlimit hdeep

namespace Showing

variable {text shown : String} {indent : Nat} {maxDepth : Option Int}

/-- A placeholder is shown for its own reason only. -/
theorem opening (h : Showing text indent maxDepth shown) {w : String} (hw : w ∈ openings)
    (hstarts : w.toList <+: shown.toList) :
    (w = noData ∧ Text.isBlank text = true) ∨
      (w = Tree.refused ∧ Text.isBlank text = false ∧ ∃ e, Json.decode text = .error e) ∨
      (w = Tree.withheld ∧ ∃ v limit, Json.decode text = .ok v ∧ maxDepth = some limit ∧
        limit < (Node.ofJson v).nesting) := by
  cases h with
  | blank hblank =>
    exact .inl ⟨opening_unique hw (by decide) hstarts List.prefix_rfl, hblank⟩
  | @refused e hblank hdecode =>
    exact .inr (.inl
      ⟨opening_unique hw (by decide) hstarts (refusal_starts e), hblank, e, hdecode⟩)
  | @withheld v limit hdecode hlimit hdeep =>
    exact .inr (.inr ⟨opening_unique hw (by decide) hstarts (withholding_starts ⟨limit⟩),
      v, limit, hdecode, hlimit, hdeep⟩)
  | @value v hdecode =>
    exact absurd hstarts (not_opening_of_isTextOf (Json.isTextOf_indentedAt indent 0 v) hw)

theorem noData_iff (h : Showing text indent maxDepth shown) :
    shown = noData ↔ Text.isBlank text = true := by
  constructor
  · rintro rfl
    obtain ⟨-, hblank⟩ | ⟨hw, -⟩ | ⟨hw, -⟩ := h.opening (w := noData) (by decide) List.prefix_rfl
    · exact hblank
    · exact absurd hw (by decide)
    · exact absurd hw (by decide)
  · intro hblank
    cases h with
    | blank => rfl
    | refused hblank' => rw [hblank] at hblank'; cases hblank'
    | withheld hdecode => rw [Json.isBlank_of_decode hdecode] at hblank; cases hblank
    | value hdecode => rw [Json.isBlank_of_decode hdecode] at hblank; cases hblank

theorem eq_refusal (h : Showing text indent maxDepth shown) {e : Json.DecodeError}
    (hblank : Text.isBlank text = false) (hdecode : Json.decode text = .error e) :
    shown = refusal e := by
  cases h with
  | blank hblank' => rw [hblank] at hblank'; cases hblank'
  | refused _ hdecode' => cases hdecode.symm.trans hdecode'; rfl
  | withheld hdecode' => cases hdecode.symm.trans hdecode'
  | value hdecode' => cases hdecode.symm.trans hdecode'

theorem refused_iff (h : Showing text indent maxDepth shown) :
    Tree.refused.toList <+: shown.toList ↔
      Text.isBlank text = false ∧ ∃ e, Json.decode text = .error e := by
  constructor
  · intro hstarts
    obtain ⟨hw, -⟩ | ⟨-, hrefused⟩ | ⟨hw, -⟩ := h.opening (by decide) hstarts
    · exact absurd hw (by decide)
    · exact hrefused
    · exact absurd hw (by decide)
  · rintro ⟨hblank, e, hdecode⟩
    rw [h.eq_refusal hblank hdecode]
    exact refusal_starts e

theorem eq_withheld (h : Showing text indent maxDepth shown) {v : Json.Value} {limit : Int}
    (hdecode : Json.decode text = .ok v) (hlimit : maxDepth = some limit)
    (hdeep : limit < (Node.ofJson v).nesting) :
    shown = Tree.withheld ++ (DepthExceeded.mk limit).message := by
  cases h with
  | blank hblank => rw [Json.isBlank_of_decode hdecode] at hblank; cases hblank
  | refused _ hdecode' => cases hdecode.symm.trans hdecode'
  | withheld _ hlimit' => cases hlimit.symm.trans hlimit'; rfl
  | value hdecode' hfits =>
    cases hdecode.symm.trans hdecode'
    exact absurd (hfits limit hlimit) (Int.not_le.mpr hdeep)

theorem withheld_iff (h : Showing text indent maxDepth shown) :
    Tree.withheld.toList <+: shown.toList ↔ ∃ v limit, Json.decode text = .ok v ∧
      maxDepth = some limit ∧ limit < (Node.ofJson v).nesting := by
  constructor
  · intro hstarts
    obtain ⟨hw, -⟩ | ⟨hw, -⟩ | ⟨-, hwithheld⟩ := h.opening (by decide) hstarts
    · exact absurd hw (by decide)
    · exact absurd hw (by decide)
    · exact hwithheld
  · rintro ⟨v, limit, hdecode, hlimit, hdeep⟩
    rw [h.eq_withheld hdecode hlimit hdeep]
    exact withholding_starts ⟨limit⟩

end Showing

/-! ## Every text is shown for what it is -/

open Document (Draft)

/-- A text is shown by the sentence for blank texts just if it is blank; by a refusal of the
decoder's, in the decoder's words, just if it is not blank and does not decode; and by a refusal
of the view's just if it decodes to a value that nests deeper than the limit. What is shown in all
other cases is the value laid out by the indentation asked for, which decodes to that value again,
and which by two spaces a level is what formatting puts into a draft with that text; of the text
of floating-point numbers the former takes for granted that the finite ones read back. A session
that is asked for the view of its output gives it, and stays as it is. -/
theorem viewOutput_faithful {V : Type} (text : String) (indent : Nat) (maxDepth : Option Int) :
    let shown := (viewOutput text indent maxDepth).plain
    (shown = noData ↔ Text.isBlank text = true) ∧
      (refused.toList <+: shown.toList ↔
        Text.isBlank text = false ∧ ∃ e, Json.decode text = .error e) ∧
      (withheld.toList <+: shown.toList ↔ ∃ v limit, Json.decode text = .ok v ∧
        maxDepth = some limit ∧ limit < (Node.ofJson v).nesting) ∧
      (∀ e, Text.isBlank text = false → Json.decode text = .error e → shown = refusal e) ∧
      (∀ v, Json.decode text = .ok v →
        (∀ limit, maxDepth = some limit → limit < (Node.ofJson v).nesting →
          shown = withheld ++ (DepthExceeded.mk limit).message) ∧
        ((∀ limit, maxDepth = some limit → ((Node.ofJson v).nesting : Int) ≤ limit) →
          shown = Json.indented indent v ∧
          ((∀ x ∈ v.floats, x.isFinite = true → Json.ReadsBack x) →
            Json.decode shown = .ok v) ∧
          (indent = 2 → ∀ (view : Session.View V) (d : Draft) (s : Session V),
            (s.store.draft d).text = text →
              (((Session.Act.format view d.buffer).run s).2.store.draft d).text = shown))) ∧
      ∀ (view : Session.View V) (s : Session V),
        (Session.Act.start view .treeView).run s =
          (.ok (.done (.view (viewOutput s.store.outputText s.settings.renderIndent
            (s.settings.renderMaxDepth.map fun n => (n : Int))))), s) := by
  intro shown
  have hshowing : Showing text indent maxDepth shown := showing_viewOutput text indent maxDepth
  refine ⟨hshowing.noData_iff, hshowing.refused_iff, hshowing.withheld_iff,
    fun e => hshowing.eq_refusal, fun v hdecode => ⟨fun limit => hshowing.eq_withheld hdecode,
      fun hfits => ?_⟩, fun view s => rfl⟩
  have hplain : shown = Json.indented indent v := plain_viewOutput hdecode indent hfits
  refine ⟨hplain, fun hfloats => ?_, ?_⟩
  · rw [hplain]
    exact Json.decode_indented hdecode hfloats indent
  · rintro rfl view d s rfl
    rw [hplain]
    exact Session.text_format view d hdecode

/-- An object that nests two levels deep is withheld from a view of one, and is read back from a
view of two. -/
theorem viewOutput_faithful_fraction :
    ∃ v, Json.decode sampleText = .ok v ∧ v.floats = [Service.threeHalves, .nan] ∧
      (∀ x ∈ v.floats, x.isFinite = true → Json.ReadsBack x) ∧ (Node.ofJson v).nesting = 2 ∧
      (viewOutput sampleText 3 (some 1)).plain = withheld ++ (DepthExceeded.mk 1).message ∧
      Json.decode (viewOutput sampleText 3 (some 2)).plain = .ok v ∧
      (viewOutput "\t" 3 (some 2)).plain = noData := by
  have hsample : (Json.decode sampleText).toOption.map
      (fun v => (v.floats, (Node.ofJson v).nesting)) =
        some ([Service.threeHalves, .nan], 2) := by decide +kernel
  cases hdecode : Json.decode sampleText with
  | error e =>
    rw [hdecode] at hsample
    cases hsample
  | ok v =>
    rw [hdecode] at hsample
    obtain ⟨hfloats, hnesting⟩ := Prod.mk.inj (Option.some.inj hsample)
    have hprinted : ∀ x ∈ v.floats, x.isFinite = true → Json.ReadsBack x := by
      rw [hfloats]
      exact Service.readsBack_sampleFloats
    obtain ⟨-, -, -, -, hshallow, -⟩ := viewOutput_faithful (V := Unit) sampleText 3 (some 1)
    obtain ⟨-, -, -, -, hdeep, -⟩ := viewOutput_faithful (V := Unit) sampleText 3 (some 2)
    obtain ⟨hblank, -⟩ := viewOutput_faithful (V := Unit) "\t" 3 (some 2)
    have hfits : ∀ limit, some 2 = some limit → ((Node.ofJson v).nesting : Int) ≤ limit := by
      rintro limit hlimit
      cases hlimit
      rw [hnesting]
      decide
    refine ⟨v, rfl, hfloats, hprinted, hnesting, (hshallow v hdecode).1 1 rfl ?_,
      ((hdeep v hdecode).2 hfits).2.1 hprinted, hblank.mpr (by decide)⟩
    rw [hnesting]
    decide

end Workbench.Tree
