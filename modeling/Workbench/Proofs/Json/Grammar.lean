import Workbench.Proofs.Json.Number
import Workbench.Proofs.Json.Quoted

/-!
# Texts of a value

A value may be written with any white space between its tokens. Main definition: `IsTextOf`, the
texts of a value. The form on one line is one of them, and so is the one over several lines, however
far its lines are indented.
-/
namespace Workbench.Json

/-- White space between tokens. -/
def IsGap (gap : List Char) : Prop := ∀ c ∈ gap, isSpace c = true

mutual

/-- A text of a value: its tokens in their order, with gaps between them. -/
inductive IsTextOf : Value → List Char → Prop
  | null : IsTextOf .null "null".toList
  | bool (b) : IsTextOf (.bool b) (if b then "true" else "false").toList
  | int (i) : IsTextOf (.int i) (integerText i).toList
  | float (x) : IsTextOf (.float x) (floatText x).toList
  | string (t) : IsTextOf (.string t) (quote t).toList
  | emptyArray {gap} (hgap : IsGap gap) : IsTextOf (.array []) ('[' :: (gap ++ [']']))
  | array {gap v vs s rest} (hgap : IsGap gap) (hv : IsTextOf v s) (hvs : IsItemsText vs rest) :
      IsTextOf (.array (v :: vs)) ('[' :: (gap ++ (s ++ rest)))
  | emptyObject {gap} (hgap : IsGap gap) :
      IsTextOf (.object []) ('\x7b' :: (gap ++ ['\x7d']))
  | object {gap m ms s rest} (hgap : IsGap gap) (hm : IsMemberText m s)
      (hms : IsMembersText ms rest) :
      IsTextOf (.object (m :: ms)) ('\x7b' :: (gap ++ (s ++ rest)))

/-- A text of the items after the first, and of the closing bracket. -/
inductive IsItemsText : List Value → List Char → Prop
  | close {gap} (hgap : IsGap gap) : IsItemsText [] (gap ++ [']'])
  | item {gap gap' v vs s rest} (hgap : IsGap gap) (hgap' : IsGap gap') (hv : IsTextOf v s)
      (hvs : IsItemsText vs rest) :
      IsItemsText (v :: vs) (gap ++ ',' :: (gap' ++ (s ++ rest)))

/-- A text of a member: its name, a colon and its value. -/
inductive IsMemberText : String × Value → List Char → Prop
  | mk {gap gap' k v s} (hgap : IsGap gap) (hgap' : IsGap gap') (hv : IsTextOf v s) :
      IsMemberText (k, v) ((quote k).toList ++ (gap ++ ':' :: (gap' ++ s)))

/-- A text of the members after the first, and of the closing brace. -/
inductive IsMembersText : List (String × Value) → List Char → Prop
  | close {gap} (hgap : IsGap gap) : IsMembersText [] (gap ++ ['\x7d'])
  | member {gap gap' m ms s rest} (hgap : IsGap gap) (hgap' : IsGap gap') (hm : IsMemberText m s)
      (hms : IsMembersText ms rest) :
      IsMembersText (m :: ms) (gap ++ ',' :: (gap' ++ (s ++ rest)))

end

/-! ## Gaps -/

theorem isGap_nil : IsGap [] := by
  intro c hc
  cases hc

theorem isGap_space : IsGap [' '] := by
  intro c hc
  rw [List.mem_singleton.mp hc]
  rfl

theorem isGap_lineBreak (width : Nat) : IsGap (lineBreak width).toList := by
  intro c hc
  simp only [lineBreak, String.toList_append, String.toList_ofList, List.mem_append,
    List.mem_replicate] at hc
  obtain hc | ⟨-, rfl⟩ := hc
  · rw [List.mem_singleton.mp hc]
    rfl
  · rfl

theorem IsGap.skipSpace_append {gap : List Char} (h : IsGap gap) (rest : List Char) :
    skipSpace (gap ++ rest) = skipSpace rest := List.dropWhile_append_of_pos h

/-- A gap ends a number, and so does what follows it. -/
theorem IsGap.endsNumber_append {gap : List Char} (h : IsGap gap) {c : Char}
    (hc : isNumberChar c = false) (rest : List Char) : EndsNumber (gap ++ c :: rest) := by
  cases gap with
  | nil => exact endsNumber_cons hc
  | cons d gap =>
    refine endsNumber_cons (Bool.eq_false_iff.mpr fun hd => ?_)
    have hspace : isSpace d = true := h d List.mem_cons_self
    rw [isSpace_of_isNumberChar hd] at hspace
    cases hspace

/-! ## The first character -/

/-- No text of a value begins with white space or with a closing bracket. -/
theorem IsTextOf.exists_eq_cons {v : Value} {s : List Char} (h : IsTextOf v s) :
    ∃ c more, s = c :: more ∧ isSpace c = false ∧ c ≠ ']' := by
  have hnumber : ∀ {t : List Char}, IsNumberText t →
      ∃ c more, t = c :: more ∧ isSpace c = false ∧ c ≠ ']' := by
    intro t ht
    have hall := ht.isNumberChar
    obtain ⟨c, more, rfl⟩ : ∃ c more, t = c :: more := by
      cases ht <;> exact ⟨_, _, rfl⟩
    have hc := hall c List.mem_cons_self
    refine ⟨c, more, rfl, isSpace_of_isNumberChar hc, ?_⟩
    rintro rfl
    cases hc
  cases h with
  | null => exact ⟨_, _, rfl, rfl, by decide⟩
  | bool b => cases b <;> exact ⟨_, _, rfl, rfl, by decide⟩
  | int i => exact hnumber (isNumberText_integerText i)
  | float x =>
    cases hx : x.isFinite with
    | true => exact hnumber (isNumberText_floatText hx)
    | false =>
      cases x with
      | nan => exact ⟨_, _, rfl, rfl, by decide⟩
      | infinite negative => cases negative <;> exact ⟨_, _, rfl, rfl, by decide⟩
      | finite => cases hx
  | string t => exact ⟨_, _, quote_toList t, rfl, by decide⟩
  | emptyArray => exact ⟨_, _, rfl, rfl, by decide⟩
  | array => exact ⟨_, _, rfl, rfl, by decide⟩
  | emptyObject => exact ⟨_, _, rfl, rfl, by decide⟩
  | object => exact ⟨_, _, rfl, rfl, by decide⟩

theorem IsTextOf.skipSpace_append {v : Value} {s : List Char} (h : IsTextOf v s)
    (rest : List Char) : skipSpace (s ++ rest) = s ++ rest := by
  obtain ⟨c, more, rfl, hspace, -⟩ := h.exists_eq_cons
  rw [List.cons_append, skipSpace, List.dropWhile_cons_of_neg (by simp [hspace])]

theorem IsMemberText.exists_eq_cons {m : String × Value} {s : List Char} (h : IsMemberText m s) :
    ∃ more, s = '"' :: more := by
  cases h
  exact ⟨_, by rw [quote_toList]; rfl⟩

theorem IsMemberText.skipSpace_append {m : String × Value} {s : List Char} (h : IsMemberText m s)
    (rest : List Char) : skipSpace (s ++ rest) = s ++ rest := by
  obtain ⟨more, rfl⟩ := h.exists_eq_cons
  rfl

theorem IsItemsText.endsNumber_append {vs : List Value} {s : List Char} (h : IsItemsText vs s)
    (rest : List Char) : EndsNumber (s ++ rest) := by
  cases h with
  | close hgap =>
    rw [List.append_assoc]
    exact hgap.endsNumber_append rfl rest
  | item hgap =>
    rw [List.append_assoc]
    exact hgap.endsNumber_append rfl _

theorem IsMembersText.endsNumber_append {ms : List (String × Value)} {s : List Char}
    (h : IsMembersText ms s) (rest : List Char) : EndsNumber (s ++ rest) := by
  cases h with
  | close hgap =>
    rw [List.append_assoc]
    exact hgap.endsNumber_append rfl rest
  | member hgap =>
    rw [List.append_assoc]
    exact hgap.endsNumber_append rfl _

/-! ## How long a text is -/

theorem IsItemsText.length_le {vs : List Value} {s : List Char} (h : IsItemsText vs s) :
    vs.length ≤ s.length := by
  induction vs generalizing s with
  | nil => simp
  | cons v vs ih =>
    cases h with
    | item hgap hgap' hv hvs =>
      have hle := ih hvs
      simp only [List.length_append, List.length_cons]
      omega

theorem IsMembersText.length_le {ms : List (String × Value)} {s : List Char}
    (h : IsMembersText ms s) : ms.length ≤ s.length := by
  induction ms generalizing s with
  | nil => simp
  | cons m ms ih =>
    cases h with
    | member hgap hgap' hm hms =>
      have hle := ih hms
      simp only [List.length_append, List.length_cons]
      omega

/-! ## On one line -/

mutual

/-- The form on one line is a text of the value. -/
theorem isTextOf_compact : ∀ v : Value, IsTextOf v (compact v).toList
  | .null => .null
  | .bool b => .bool b
  | .int i => .int i
  | .float x => .float x
  | .string t => .string t
  | .array [] => .emptyArray isGap_nil
  | .array (v :: vs) => by
    have h := IsTextOf.array isGap_nil (isTextOf_compact v) (isItemsText_compactItems vs)
    simpa [compact] using h
  | .object [] => .emptyObject isGap_nil
  | .object ((k, v) :: ms) => by
    have h := IsTextOf.object (m := (k, v)) isGap_nil
      (.mk isGap_nil isGap_nil (isTextOf_compact v)) (isMembersText_compactMembers ms)
    simpa [compact] using h

theorem isItemsText_compactItems : ∀ vs : List Value, IsItemsText vs (compactItems vs).toList
  | [] => .close isGap_nil
  | v :: vs => by
    have h := IsItemsText.item isGap_nil isGap_nil (isTextOf_compact v)
      (isItemsText_compactItems vs)
    simpa [compactItems] using h

theorem isMembersText_compactMembers :
    ∀ ms : List (String × Value), IsMembersText ms (compactMembers ms).toList
  | [] => .close isGap_nil
  | (k, v) :: ms => by
    have h := IsMembersText.member (m := (k, v)) isGap_nil isGap_nil
      (.mk isGap_nil isGap_nil (isTextOf_compact v)) (isMembersText_compactMembers ms)
    simpa [compactMembers] using h

end

/-! ## Over several lines -/

mutual

/-- The form over several lines is a text of the value. -/
theorem isTextOf_indentedAt (step : Nat) : ∀ (width : Nat) (v : Value),
    IsTextOf v (indentedAt step width v).toList
  | _, .null => .null
  | _, .bool b => .bool b
  | _, .int i => .int i
  | _, .float x => .float x
  | _, .string t => .string t
  | width, .array [] => by
    rw [indentedAt]
    exact .emptyArray isGap_nil
  | width, .array (v :: vs) => by
    have h := IsTextOf.array (isGap_lineBreak (width + step))
      (isTextOf_indentedAt step (width + step) v) (isItemsText_indentedItems step width vs)
    simpa [indentedAt] using h
  | width, .object [] => by
    rw [indentedAt]
    exact .emptyObject isGap_nil
  | width, .object ((k, v) :: ms) => by
    have h := IsTextOf.object (m := (k, v)) (isGap_lineBreak (width + step))
      (.mk isGap_nil isGap_space (isTextOf_indentedAt step (width + step) v))
      (isMembersText_indentedMembers step width ms)
    simpa [indentedAt] using h

theorem isItemsText_indentedItems (step width : Nat) : ∀ vs : List Value,
    IsItemsText vs (indentedItems step width vs).toList
  | [] => by
    have h := IsItemsText.close (isGap_lineBreak width)
    simpa [indentedItems] using h
  | v :: vs => by
    have h := IsItemsText.item isGap_nil (isGap_lineBreak (width + step))
      (isTextOf_indentedAt step (width + step) v) (isItemsText_indentedItems step width vs)
    simpa [indentedItems] using h

theorem isMembersText_indentedMembers (step width : Nat) : ∀ ms : List (String × Value),
    IsMembersText ms (indentedMembers step width ms).toList
  | [] => by
    have h := IsMembersText.close (isGap_lineBreak width)
    simpa [indentedMembers] using h
  | (k, v) :: ms => by
    have h := IsMembersText.member (m := (k, v)) isGap_nil (isGap_lineBreak (width + step))
      (.mk isGap_nil isGap_space (isTextOf_indentedAt step (width + step) v))
      (isMembersText_indentedMembers step width ms)
    simpa [indentedMembers] using h

end

end Workbench.Json
