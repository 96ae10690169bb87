import Workbench.Proofs.Json.Characters
import Workbench.Proofs.Tree.Render
import Workbench.Tree.View

/-!
# Styled rendering

The styled form of a decoded value lies over its plain form. No character is dropped from it, so the
places that are counted up from the pieces are those in the text, and each span but those of
punctuation has a stretch of its own. Main definition: `IsAligned`.
-/
namespace Workbench.Styled

theorem clean_of_isShown {s : String} (h : Json.IsShown s.toList) : clean s = s := by
  have hall : s.toList.filter (!isDropped ·) = s.toList :=
    List.filter_eq_self.mpr fun c hc => by simp [h c hc]
  rw [clean, hall, String.ofList_toList]

/-- Does the stretch cover the character at a place? -/
def Stretch.Covers (x : Stretch) (i : Nat) : Prop := x.start ≤ i ∧ i < x.stop

/-- What stands between two places. -/
def Text.between (t : Text) (start stop : Nat) : String :=
  String.ofList ((t.plain.toList.drop start).take (stop - start))

end Workbench.Styled

namespace Workbench.Tree

open Styled (Stretch)

variable {s : Span} {spans : List Span} {offset i : Nat}

/-! ## Spans in their places -/

/-- A span, and where it begins in the text of all. -/
structure Placed where
  start : Nat
  span : Span

namespace Placed

/-- Where it ends. -/
def stop (p : Placed) : Nat := p.start + p.span.text.length

/-- The stretch that covers it. -/
def stretch (p : Placed) : Stretch := ⟨p.start, p.stop, p.span.tag.style⟩

end Placed

/-- Spans one after the other, the first at an offset. -/
def placedFrom : Nat → List Span → List Placed
  | _, [] => []
  | offset, s :: spans => ⟨offset, s⟩ :: placedFrom (offset + s.text.length) spans

theorem toList_plain_cons (s : Span) (spans : List Span) :
    (Span.plain (s :: spans)).toList = s.text.toList ++ (Span.plain spans).toList := by
  rw [Span.plain_cons, String.toList_append]

theorem map_span_placedFrom (offset : Nat) (spans : List Span) :
    (placedFrom offset spans).map Placed.span = spans := by
  induction spans generalizing offset with
  | nil => rfl
  | cons s spans ih => rw [placedFrom, List.map_cons, ih]

theorem le_start {p : Placed} (h : p ∈ placedFrom offset spans) : offset ≤ p.start := by
  induction spans generalizing offset with
  | nil => cases h
  | cons s spans ih =>
    obtain rfl | h := List.mem_cons.mp h
    · exact Nat.le_refl _
    · exact Nat.le_trans (Nat.le_add_right _ _) (ih h)

/-- No two of them overlap. -/
theorem pairwise_placedFrom (offset : Nat) (spans : List Span) :
    (placedFrom offset spans).Pairwise fun p q => p.stop ≤ q.start := by
  induction spans generalizing offset with
  | nil => exact List.Pairwise.nil
  | cons s spans ih => exact List.pairwise_cons.mpr ⟨fun q hq => le_start hq, ih _⟩

/-- Each of them stands where it is placed. -/
theorem take_drop_plain {p : Placed} (h : p ∈ placedFrom offset spans) :
    ((Span.plain spans).toList.drop (p.start - offset)).take p.span.text.length =
      p.span.text.toList := by
  induction spans generalizing offset with
  | nil => cases h
  | cons s spans ih =>
    rw [toList_plain_cons]
    obtain rfl | h := List.mem_cons.mp h
    · rw [Nat.sub_self, List.drop_zero, ← String.length_toList, List.take_left]
    · have hplace : p.start - offset = s.text.toList.length +
          (p.start - (offset + s.text.length)) := by
        have hle := le_start h
        rw [String.length_toList]
        omega
      rw [hplace, List.drop_length_add_append, ih h]

/-- Every character of the text is one of some span's. -/
theorem exists_covers {c : Char} (h : (Span.plain spans).toList[i]? = some c) (offset : Nat) :
    ∃ p ∈ placedFrom offset spans, p.stretch.Covers (offset + i) ∧ c ∈ p.span.text.toList := by
  induction spans generalizing offset i with
  | nil => simp [Span.plain] at h
  | cons s spans ih =>
    rw [toList_plain_cons] at h
    by_cases hfirst : i < s.text.toList.length
    · rw [List.getElem?_append_left hfirst] at h
      refine ⟨⟨offset, s⟩, List.mem_cons_self, ⟨Nat.le_add_right _ _, ?_⟩,
        List.mem_of_getElem? h⟩
      rw [String.length_toList] at hfirst
      exact Nat.add_lt_add_left hfirst _
    · have hlater := Nat.le_of_not_lt hfirst
      rw [List.getElem?_append_right hlater] at h
      rw [String.length_toList] at h hlater
      obtain ⟨p, hp, hcovers, hc⟩ := ih h (offset + s.text.length)
      rw [Nat.add_assoc, Nat.add_sub_cancel' hlater] at hcovers
      exact ⟨p, List.mem_cons_of_mem _ hp, hcovers, hc⟩

/-! ## The spans of decoded JSON -/

/-- The characters that punctuation is made of. -/
def isPunctuation (c : Char) : Bool := c == ' ' || c == '\n' || c == ',' || c == ':'

/-- Nothing is dropped from the text of the span; punctuation is made of its own characters, and
any other span has some text. -/
structure Span.IsNeat (s : Span) : Prop where
  shown : Json.IsShown s.text.toList
  punct : s.tag = .punct → s.text.toList.all isPunctuation = true
  nonempty : s.tag ≠ .punct → s.text ≠ ""

theorem Tag.style_eq_empty_iff (t : Tag) : t.style = "" ↔ t = .punct := by
  cases t <;> decide

/-- A piece of punctuation. -/
theorem isNeat_punct {text : String} (hshown : text.toList.all (!Styled.isDropped ·) = true)
    (h : text.toList.all isPunctuation = true) : Span.IsNeat ⟨text, .punct⟩ :=
  ⟨Json.isShown_of_all hshown, fun _ => h, absurd rfl⟩

/-- A piece of text with a tag of its own. -/
theorem isNeat_of_ne_punct {text : String} {tag : Tag} (htag : tag ≠ .punct)
    (hshown : Json.IsShown text.toList) (hnonempty : text ≠ "") : Span.IsNeat ⟨text, tag⟩ :=
  ⟨hshown, fun h => absurd h htag, fun _ => hnonempty⟩

theorem isNeat_bracket {text : String} {tag : Tag} (htag : tag ≠ .punct)
    (hshown : text.toList.all (!Styled.isDropped ·) = true) (hnonempty : text ≠ "") :
    Span.IsNeat ⟨text, tag⟩ := isNeat_of_ne_punct htag (Json.isShown_of_all hshown) hnonempty

theorem isNeat_lineEnd : lineEnd.IsNeat := isNeat_punct rfl rfl

theorem isNeat_comma : comma.IsNeat := isNeat_punct rfl rfl

theorem isNeat_colon : colon.IsNeat := isNeat_punct rfl rfl

theorem isNeat_space (m : Margin) (level : Int) : (m.space level).IsNeat := by
  refine isNeat_punct (List.all_eq_true.mpr fun c hc => ?_) (List.all_eq_true.mpr fun c hc => ?_)
  all_goals
    rw [String.toList_ofList] at hc
    rw [List.eq_of_mem_replicate hc]
    rfl

theorem isNeat_quote (s : String) {tag : Tag} (htag : tag ≠ .punct) :
    Span.IsNeat ⟨Json.quote s, tag⟩ := by
  refine isNeat_of_ne_punct htag (Json.isShown_quote s) fun hempty => ?_
  have hquote := Json.quote_toList s
  rw [hempty] at hquote
  cases hquote

theorem isNeat_number {text : String} (hshown : Json.IsShown text.toList)
    {v : Json.Value} (h : Json.IsTextOf v text.toList) : Span.IsNeat ⟨text, .number⟩ := by
  refine isNeat_of_ne_punct (by decide) hshown fun hempty => ?_
  obtain ⟨c, more, htext, -⟩ := h.exists_eq_cons
  rw [hempty] at htext
  cases htext

mutual

/-- The spans of a decoded value, wherever it is drawn. -/
theorem isNeat_outline (m : Margin) : ∀ (level : Int) (v : Json.Value),
    ∀ s ∈ outline m level (.ofJson v), s.IsNeat
  | level, .null => List.forall_mem_singleton.mpr (isNeat_bracket (by decide) rfl (by decide))
  | level, .bool b => by
    cases b <;> exact List.forall_mem_singleton.mpr (isNeat_bracket (by decide) rfl (by decide))
  | level, .int i => List.forall_mem_singleton.mpr
    (isNeat_number (Json.isShown_of_isNumberText (Json.isNumberText_integerText i)) (.int i))
  | level, .float x => List.forall_mem_singleton.mpr
    (isNeat_number (Json.isShown_floatText x) (.float x))
  | level, .string t => List.forall_mem_singleton.mpr (isNeat_quote t (by decide))
  | level, .array [] => List.forall_mem_singleton.mpr (isNeat_bracket (by decide) rfl (by decide))
  | level, .array (v :: vs) => by
    rw [Node.ofJson, Node.ofItems, outline]
    simp only [List.forall_mem_append, List.forall_mem_cons, List.not_mem_nil, false_imp_iff,
      implies_true, and_true]
    exact ⟨⟨⟨isNeat_bracket (by decide) rfl (by decide), isNeat_lineEnd, isNeat_space m _⟩,
      isNeat_outline m _ v⟩, isNeat_outlineItems m level vs⟩
  | level, .object [] => List.forall_mem_singleton.mpr (isNeat_bracket (by decide) rfl (by decide))
  | level, .object ((k, v) :: ms) => by
    rw [Node.ofJson, Node.ofMembers, outline]
    simp only [List.forall_mem_append, List.forall_mem_cons, List.not_mem_nil, false_imp_iff,
      implies_true, and_true]
    exact ⟨⟨⟨isNeat_bracket (by decide) rfl (by decide), isNeat_lineEnd, isNeat_space m _,
      isNeat_quote _ (by decide), isNeat_colon⟩, isNeat_outline m _ v⟩,
      isNeat_outlineMembers m level ms⟩

theorem isNeat_outlineItems (m : Margin) (level : Int) : ∀ vs : List Json.Value,
    ∀ s ∈ outlineItems m level (Node.ofItems vs), s.IsNeat
  | [] => by
    rw [Node.ofItems, outlineItems]
    simp only [List.forall_mem_cons, List.not_mem_nil, false_imp_iff, implies_true, and_true]
    exact ⟨isNeat_lineEnd, isNeat_space m level, isNeat_bracket (by decide) rfl (by decide)⟩
  | v :: vs => by
    rw [Node.ofItems, outlineItems]
    simp only [List.forall_mem_append, List.forall_mem_cons, List.not_mem_nil, false_imp_iff,
      implies_true, and_true]
    exact ⟨⟨⟨isNeat_comma, isNeat_lineEnd, isNeat_space m _⟩, isNeat_outline m _ v⟩,
      isNeat_outlineItems m level vs⟩

theorem isNeat_outlineMembers (m : Margin) (level : Int) : ∀ ms : List (String × Json.Value),
    ∀ s ∈ outlineEntries m level (Node.ofMembers ms), s.IsNeat
  | [] => by
    rw [Node.ofMembers, outlineEntries]
    simp only [List.forall_mem_cons, List.not_mem_nil, false_imp_iff, implies_true, and_true]
    exact ⟨isNeat_lineEnd, isNeat_space m level, isNeat_bracket (by decide) rfl (by decide)⟩
  | (k, v) :: ms => by
    rw [Node.ofMembers, outlineEntries]
    simp only [List.forall_mem_append, List.forall_mem_cons, List.not_mem_nil, false_imp_iff,
      implies_true, and_true]
    exact ⟨⟨⟨isNeat_comma, isNeat_lineEnd, isNeat_space m _, isNeat_quote _ (by decide),
      isNeat_colon⟩, isNeat_outline m _ v⟩, isNeat_outlineMembers m level ms⟩

end

/-! ## The styled text of spans -/

/-- The styled text of spans. -/
def styledText (spans : List Span) : Styled.Text :=
  .ofPieces (spans.map fun s => (s.text, s.tag.style))

theorem plain_styledText (h : ∀ s ∈ spans, s.IsNeat) :
    (styledText spans).plain = Span.plain spans := by
  unfold styledText Styled.Text.ofPieces Span.plain
  dsimp only
  rw [List.map_map]
  refine congrArg String.join (List.map_congr_left fun s hs => ?_)
  exact Styled.clean_of_isShown (h s hs).shown

theorem renderStyled_eq (v : Json.Value) (depth indent : Int) {maxDepth : Option Int}
    (h : ∀ limit, maxDepth = some limit → ((Node.ofJson v).nesting : Int) ≤ limit) :
    renderStyled (.ofJson v) depth indent maxDepth =
      .ok (styledText (outline ⟨indent⟩ depth (.ofJson v))) := by
  rw [renderStyled, renderSpans_eq _ _ _ h]
  rfl

/-- The stretches are those of the spans that have a style. -/
theorem stretchesFrom_eq (h : ∀ s ∈ spans, s.IsNeat) (offset : Nat) :
    Styled.Text.stretchesFrom offset (spans.map fun s => (s.text, s.tag.style)) =
      ((placedFrom offset spans).filter (·.span.tag ≠ .punct)).map Placed.stretch := by
  induction spans generalizing offset with
  | nil => rfl
  | cons s spans ih =>
    obtain ⟨hs, hspans⟩ := List.forall_mem_cons.mp h
    rw [List.map_cons, Styled.Text.stretchesFrom, Styled.clean_of_isShown hs.shown, ih hspans,
      placedFrom, List.filter_cons]
    by_cases htag : s.tag = .punct
    · have hstyle : Tag.punct.style = "" := rfl
      simp [htag, hstyle]
    · have hstyle : s.tag.style.isEmpty = false :=
        Bool.eq_false_iff.mpr fun h =>
          htag ((Tag.style_eq_empty_iff s.tag).mp (String.isEmpty_iff.mp h))
      have htext : s.text.isEmpty = false :=
        Bool.eq_false_iff.mpr fun h => hs.nonempty htag (String.isEmpty_iff.mp h)
      simp [hstyle, htext, htag, Placed.stretch, Placed.stop]

/-- Styled text that lies over the text of spans: the stretches are those of the spans other than
punctuation, each where its span stands and in the style of its tag, and all that lies between them
is punctuation. -/
structure IsAligned (t : Styled.Text) (spans : List Span) : Prop where
  plain : t.plain = Span.plain spans
  style : t.style = ""
  placed : ∀ p ∈ placedFrom 0 spans, t.between p.start p.stop = p.span.text
  stretches : t.stretches =
    ((placedFrom 0 spans).filter (·.span.tag ≠ .punct)).map Placed.stretch
  texts : t.stretches.map (fun x => (t.between x.start x.stop, x.style)) =
    (spans.filter (·.tag ≠ .punct)).map fun s => (s.text, s.tag.style)
  nonempty : ∀ x ∈ t.stretches, x.start < x.stop
  ordered : t.stretches.Pairwise fun x y => x.stop ≤ y.start
  gaps : ∀ i c, t.plain.toList[i]? = some c → (∀ x ∈ t.stretches, ¬ x.Covers i) →
    (c = ' ' ∨ c = '\n' ∨ c = ',' ∨ c = ':') ∧
      ∃ p ∈ placedFrom 0 spans, p.span.tag = .punct ∧ p.stretch.Covers i

theorem isAligned_styledText (h : ∀ s ∈ spans, s.IsNeat) : IsAligned (styledText spans) spans := by
  have hplain := plain_styledText h
  have hstretches : (styledText spans).stretches = _ := stretchesFrom_eq h 0
  have hneat : ∀ p ∈ placedFrom 0 spans, p.span.IsNeat := fun p hp =>
    h p.span (by rw [← map_span_placedFrom 0 spans]; exact List.mem_map_of_mem hp)
  have hplaced : ∀ p ∈ placedFrom 0 spans,
      (styledText spans).between p.start p.stop = p.span.text := by
    intro p hp
    have htext := take_drop_plain hp
    rw [Nat.sub_zero] at htext
    rw [Styled.Text.between, hplain, Placed.stop, Nat.add_sub_cancel_left, htext,
      String.ofList_toList]
  refine ⟨hplain, rfl, hplaced, hstretches, ?_, ?_, ?_, ?_⟩
  · have hspans : spans.filter (·.tag ≠ .punct) =
        ((placedFrom 0 spans).filter (·.span.tag ≠ .punct)).map Placed.span := by
      conv_lhs => rw [← map_span_placedFrom 0 spans, List.filter_map]
      rfl
    rw [hstretches, hspans, List.map_map, List.map_map]
    refine List.map_congr_left fun p hp => ?_
    exact Prod.ext (hplaced p (List.mem_filter.mp hp).1) rfl
  · rw [hstretches]
    intro x hx
    obtain ⟨p, hp, rfl⟩ := List.mem_map.mp hx
    obtain ⟨hp, htag⟩ := List.mem_filter.mp hp
    have hnonempty := (hneat p hp).nonempty (of_decide_eq_true htag)
    have hlength : 0 < p.span.text.length :=
      Nat.pos_of_ne_zero fun hzero => hnonempty (String.length_eq_zero_iff.mp hzero)
    exact Nat.lt_add_of_pos_right hlength
  · rw [hstretches, List.pairwise_map]
    exact (pairwise_placedFrom 0 spans).sublist List.filter_sublist
  · intro i c hc hnone
    rw [hplain] at hc
    obtain ⟨p, hp, hcovers, hmem⟩ := exists_covers hc 0
    rw [Nat.zero_add] at hcovers
    have htag : p.span.tag = .punct := by
      refine Decidable.of_not_not fun htag => hnone p.stretch ?_ hcovers
      rw [hstretches]
      exact List.mem_map_of_mem (List.mem_filter.mpr ⟨hp, decide_eq_true htag⟩)
    have hpunct := List.all_eq_true.mp ((hneat p hp).punct htag) c hmem
    simp only [isPunctuation, Bool.or_eq_true, beq_iff_eq] at hpunct
    exact ⟨by simpa only [or_assoc] using hpunct, p, hp, htag, hcovers⟩

/-- A decoded value that nests no deeper than the limit has a styled form that lies over its plain
one, at any depth and for any indentation. -/
theorem renderStyled_aligned (v : Json.Value) (depth indent : Int) {maxDepth : Option Int}
    (h : ∀ limit, maxDepth = some limit → ((Node.ofJson v).nesting : Int) ≤ limit) :
    ∃ spans t, renderSpans (.ofJson v) depth indent maxDepth = .ok spans ∧
      renderStyled (.ofJson v) depth indent maxDepth = .ok t ∧
      render (.ofJson v) depth indent maxDepth = .ok t.plain ∧ IsAligned t spans := by
  have hspans := renderSpans_eq (.ofJson v) depth indent h
  have haligned := isAligned_styledText (isNeat_outline ⟨indent⟩ depth v)
  refine ⟨_, _, hspans, renderStyled_eq v depth indent h, ?_, haligned⟩
  rw [render, hspans, haligned.plain]
  rfl

/-- Characters that would be dropped stand in a key and in an item; in the styled form they are
escaped, and have a stretch. -/
theorem renderStyled_aligned_control :
    let n := Node.ofJson (.object [("\x07", .array [.string "\x08", .null])])
    n.nesting = 2 ∧ ∃ spans t, renderSpans n 0 1 (some 2) = .ok spans ∧ IsAligned t spans ∧
      renderStyled n 0 1 (some 2) = .ok t ∧ render n 0 1 (some 2) = .ok t.plain ∧
      t.stretches = [⟨0, 1, "bold"⟩, ⟨3, 11, "bold blue"⟩, ⟨13, 14, "bold"⟩, ⟨17, 21, "green"⟩,
        ⟨25, 29, "magenta"⟩, ⟨31, 32, "bold"⟩, ⟨33, 34, "bold"⟩] := by
  intro n
  have hnesting : ∀ limit, some (2 : Int) = some limit → (n.nesting : Int) ≤ limit := by
    rintro _ ⟨⟩
    decide
  refine ⟨rfl, ?_⟩
  obtain ⟨spans, t, hspans, ht, hrender, haligned⟩ := renderStyled_aligned _ 0 1 hnesting
  refine ⟨spans, t, hspans, haligned, ht, hrender, ?_⟩
  have hstretches : (renderStyled n 0 1 (some 2)).toOption.map (·.stretches) = some [⟨0, 1, "bold"⟩,
      ⟨3, 11, "bold blue"⟩, ⟨13, 14, "bold"⟩, ⟨17, 21, "green"⟩, ⟨25, 29, "magenta"⟩,
      ⟨31, 32, "bold"⟩, ⟨33, 34, "bold"⟩] := by decide +kernel
  have ht' : renderStyled n 0 1 (some 2) = .ok t := ht
  rw [ht'] at hstretches
  exact Option.some.inj hstretches

end Workbench.Tree
