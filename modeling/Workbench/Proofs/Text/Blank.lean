import Mathlib.Data.List.TakeWhile
import Workbench.Text.Blank

/-!
# Blank texts

A text is blank when nothing is left of it without the white space at its ends.
-/
namespace Workbench.Text

theorem trim_eq_nil {p : Char → Bool} {cs : List Char} : trim p cs = [] ↔ cs.all p = true := by
  simp only [trim, List.reverse_eq_nil_iff, List.dropWhile_eq_nil_iff, List.mem_reverse,
    List.all_eq_true]
  constructor
  · intro h c hc
    rw [← List.takeWhile_append_dropWhile (p := p) (l := cs), List.mem_append] at hc
    obtain hc | hc := hc
    · exact List.mem_takeWhile_imp hc
    · exact h c hc
  · exact fun h c hc => h c ((List.dropWhile_sublist p).mem hc)

theorem strip_eq_empty {s : String} : strip s = "" ↔ isBlank s = true := by
  rw [isBlank, ← trim_eq_nil, strip]
  exact String.ofList_eq_empty_iff

end Workbench.Text
