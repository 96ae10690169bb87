import Workbench.Proofs.Session.Formatting
import Workbench.Proofs.Tree.Styled

/-!
# The tree view loses nothing

A decoded value is rendered as the formatter lays it out, and is read back from its rendering. The
tree view of a text shows the characters that formatting a draft with that text puts into it.
-/
namespace Workbench.Tree

/-- A text that decodes is viewed as its value is laid out, unless it nests too deep. -/
theorem plain_viewOutput {text : String} {v : Json.Value} (h : Json.decode text = .ok v)
    (indent : Nat) {maxDepth : Option Int}
    (hdepth : ∀ limit, maxDepth = some limit → ((Node.ofJson v).nesting : Int) ≤ limit) :
    (viewOutput text indent maxDepth).plain = Json.indented indent v := by
  rw [viewOutput, Json.isBlank_of_decode h, if_neg Bool.false_ne_true, h]
  dsimp only
  rw [renderStyled_eq v 0 indent hdepth]
  exact (plain_styledText (isNeat_outline ⟨indent⟩ 0 v)).trans (plain_outline indent 0 v)

end Workbench.Tree

namespace Workbench.Tree

open Document (Draft)

/-- Decoded JSON is rendered, at any depth and for any indentation. On the first level the text is
character for character the value as the formatter lays it out. At any depth it decodes to the same
value, also by a reader that follows another number of levels of nesting, if that reader can give the
value at all; of the text of floating-point numbers this takes for granted that the finite ones read
back. So the tree view of a text shows what formatting a draft with that text puts into it. -/
theorem render_lossless {V : Type} (v : Json.Value) (indent depth : Nat) :
    ∃ s, render (.ofJson v) depth indent none = .ok s ∧
      (depth = 0 → s = Json.indented indent v) ∧
      ((∀ x ∈ v.floats, x.isFinite = true → Json.ReadsBack x) →
        (∀ text, Json.decode text = .ok v → Json.decode s = .ok v) ∧
          ∀ budget text, Json.scanTextWithin budget text = .ok v →
            Json.scanTextWithin budget s.toList = .ok v) ∧
      ∀ text, Json.decode text = .ok v →
        (viewOutput text indent none).plain = Json.indented indent v ∧
          ∀ (view : Session.View V) (d : Draft) (s : Session V), (s.store.draft d).text = text →
            (((Session.Act.format view d.buffer).run s).2.store.draft d).text =
              (viewOutput text 2 none).plain := by
  have hview (text : String) (hdecode : Json.decode text = .ok v) (indent : Nat) :
      (viewOutput text indent none).plain = Json.indented indent v :=
    plain_viewOutput hdecode indent fun limit h => by cases h
  have htext := Json.isTextOf_indentedAt indent (indent * depth) v
  refine ⟨_, render_ofJson v depth indent fun limit h => (by cases h), ?_, fun hfloats => ⟨?_, ?_⟩,
    fun text hdecode => ⟨hview text hdecode indent, ?_⟩⟩
  · rintro rfl
    rfl
  · intro text hdecode
    exact Json.decode_eq_ok.mpr
      (Json.scanTextWithin_of_isTextOf (Json.isReadable_of_decode hdecode) hfloats htext)
  · intro budget text hread
    exact Json.scanTextWithin_of_isTextOf (Json.isReadable_of_scanTextWithin hread) hfloats htext
  · intro view d s hs
    have htwo : (viewOutput text 2 none).plain = Json.indented 2 v := hview text hdecode 2
    rw [htwo]
    refine Session.text_format view d ?_
    rw [hs]
    exact hdecode

/-- An object with a fraction, a number that is none, and an empty object after them. -/
def sampleText : String := "\x7b\"b\\n\": [1.5, NaN], \"a\": \x7b\x7d\x7d"

/-- That object is read back from its rendering two levels in, by three spaces a level. -/
theorem render_lossless_fraction :
    ∃ v s, Json.decode sampleText = .ok v ∧
      (∀ x ∈ v.floats, x.isFinite = true → Json.ReadsBack x) ∧
      v.floats = [Service.threeHalves, .nan] ∧ render (.ofJson v) 2 3 none = .ok s ∧
      Json.decode s = .ok v ∧
      (viewOutput sampleText 3 none).plain = Json.indented 3 v := by
  have hfloats : (Json.decode sampleText).toOption.map Json.Value.floats =
      some [Service.threeHalves, .nan] := by decide +kernel
  cases hdecode : Json.decode sampleText with
  | error e =>
    rw [hdecode] at hfloats
    cases hfloats
  | ok v =>
    rw [hdecode] at hfloats
    obtain hfloats : v.floats = [Service.threeHalves, .nan] := Option.some.inj hfloats
    have hprinted : ∀ x ∈ v.floats, x.isFinite = true → Json.ReadsBack x := by
      rw [hfloats]
      exact Service.readsBack_sampleFloats
    obtain ⟨s, hrender, -, hback, hview⟩ := render_lossless (V := Unit) v 3 2
    exact ⟨v, s, rfl, hprinted, hfloats, hrender, (hback hprinted).1 _ hdecode,
      (hview _ hdecode).1⟩

end Workbench.Tree
