import Mathlib
import Workbench.Text.Case

/-!
# Texts in any letter case

Texts that agree up to the case of ASCII letters can stand for each other, and of these texts one
is in lower case.
-/
namespace Workbench.Text

variable {a b : String}

@[simp] theorem sameAsciiCase_self (a : String) : sameAsciiCase a a = true := BEq.rfl

theorem sameAsciiCase_comm (a b : String) : sameAsciiCase a b = sameAsciiCase b a := Bool.beq_comm

theorem sameAsciiCase_congr (h : sameAsciiCase a b = true) (c : String) :
    sameAsciiCase a c = sameAsciiCase b c := by
  unfold sameAsciiCase at h ⊢
  rw [eq_of_beq h]

/-- The text is in lower case. -/
def IsLower (a : String) : Prop := a.toList.map Char.toLower = a.toList

instance (a : String) : Decidable (IsLower a) :=
  inferInstanceAs (Decidable (a.toList.map Char.toLower = a.toList))

theorem IsLower.append (ha : IsLower a) (hb : IsLower b) : IsLower (a ++ b) := by
  rw [IsLower, String.toList_append, List.map_append, ha, hb]

theorem isLower_iff : IsLower a ↔ ∀ c ∈ a.toList, c.toLower = c := by
  simpa [IsLower] using List.map_inj_left (l := a.toList) (f := Char.toLower) (g := id)

theorem isLower_map (a : String) : IsLower (a.map Char.toLower) := by
  simp [IsLower]

/-- Two texts in lower case are the same if they agree up to case. -/
theorem IsLower.eq_of_sameAsciiCase (ha : IsLower a) (hb : IsLower b)
    (h : sameAsciiCase a b = true) : a = b := by
  rw [← String.toList_inj, ← ha, ← hb]
  exact eq_of_beq h

/-- The lower case of a text is the text in lower case that agrees with it. -/
theorem map_toLower_eq_iff (ha : IsLower a) :
    b.map Char.toLower = a ↔ sameAsciiCase a b = true := by
  rw [← String.toList_inj, String.toList_map, sameAsciiCase, ha, beq_iff_eq, eq_comm]

end Workbench.Text
