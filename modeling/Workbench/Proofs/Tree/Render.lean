import Workbench.Json.Encode
import Workbench.Tree.Render

/-!
# What rendering puts out

The loop over the stack of work gives the outline of the node, within any limit that the node does
not exceed, and the text of the outline of decoded JSON is its form over several lines.
-/
namespace Workbench.Tree

/-! ## Nesting -/

theorem Node.nesting_le_nestingItems {n : Node} {vs : List Node} (h : n ∈ vs) :
    n.nesting ≤ Node.nestingItems vs := by
  induction vs with
  | nil => cases h
  | cons v vs ih =>
    rw [Node.nestingItems]
    obtain rfl | h := List.mem_cons.mp h
    · exact Nat.le_max_left _ _
    · exact Nat.le_trans (ih h) (Nat.le_max_right _ _)

theorem Node.nestingEntries_eq (es : List (Node × Node)) :
    Node.nestingEntries es = Node.nestingItems (es.map Prod.snd) := by
  induction es with
  | nil => rfl
  | cons e es ih => rw [nestingEntries, List.map_cons, nestingItems, ih]

theorem Node.nesting_le_nestingEntries {e : Node × Node} {es : List (Node × Node)} (h : e ∈ es) :
    e.2.nesting ≤ Node.nestingEntries es := by
  rw [nestingEntries_eq]
  exact nesting_le_nestingItems (List.mem_map_of_mem h)

/-- The work of items opens no more than the items, one level further in. -/
theorem mem_itemWork {m : Margin} {level level' : Int} {n : Node} {vs : List Node}
    (h : .node n level' ∈ itemWork m level vs) : n ∈ vs ∧ level' = level + 1 := by
  induction vs with
  | nil => cases h
  | cons v vs ih =>
    rw [itemWork] at h
    simp only [List.mem_append, List.mem_cons, List.not_mem_nil, or_false, reduceCtorEq, false_or,
      Work.node.injEq] at h
    obtain ((⟨rfl, rfl⟩ | h) | h) := h
    · exact ⟨List.mem_cons_self, rfl⟩
    · split at h <;> simp at h
    · exact ⟨List.mem_cons_of_mem _ (ih h).1, (ih h).2⟩

theorem mem_entryWork {m : Margin} {level level' : Int} {n : Node} {es : List (Node × Node)}
    (h : .node n level' ∈ entryWork m level es) : (∃ e ∈ es, e.2 = n) ∧ level' = level + 1 := by
  induction es with
  | nil => cases h
  | cons e es ih =>
    obtain ⟨k, v⟩ := e
    rw [entryWork] at h
    simp only [List.mem_append, List.mem_cons, List.not_mem_nil, or_false, reduceCtorEq, false_or,
      Work.node.injEq] at h
    obtain ((⟨rfl, rfl⟩ | h) | h) := h
    · exact ⟨⟨_, List.mem_cons_self, rfl⟩, rfl⟩
    · split at h <;> simp at h
    · obtain ⟨⟨f, hf, rfl⟩, hlevel⟩ := ih h
      exact ⟨⟨f, List.mem_cons_of_mem _ hf, rfl⟩, hlevel⟩

/-- What a node opens into lies a level further in, and nests less deeply. -/
theorem Node.of_mem_open {m : Margin} {level level' : Int} {n c : Node}
    (h : .node c level' ∈ n.open m level) : level' = level + 1 ∧ c.nesting < n.nesting := by
  cases n with
  | sequence fixed vs =>
    cases vs with
    | nil => simp [Node.open] at h
    | cons v vs =>
      have hmem : .node c level' ∈ itemWork m level (v :: vs) := by simpa [Node.open] using h
      obtain ⟨hc, hlevel⟩ := mem_itemWork hmem
      have hle := Node.nesting_le_nestingItems hc
      rw [Node.nestingItems] at hle
      rw [Node.nesting]
      exact ⟨hlevel, by omega⟩
  | mapping es =>
    cases es with
    | nil => simp [Node.open] at h
    | cons e es =>
      have hmem : .node c level' ∈ entryWork m level (e :: es) := by simpa [Node.open] using h
      obtain ⟨⟨f, hf, rfl⟩, hlevel⟩ := mem_entryWork hmem
      have hle := Node.nesting_le_nestingEntries hf
      rw [Node.nestingEntries] at hle
      rw [Node.nesting]
      exact ⟨hlevel, by omega⟩
  | _ => simp [Node.open] at h

/-! ## The loop -/

/-- The spans that a piece of work comes to. -/
def Work.spans (m : Margin) : Work → List Span
  | .span s => [s]
  | .node n level => outline m level n

/-- The work nests no deeper than the limit. -/
def Work.Fits (l : Limits) : Work → Prop
  | .span _ => True
  | .node n level => ∀ limit, l.maxDepth = some limit → level + n.nesting - l.start ≤ limit

theorem flatMap_spans_itemWork (m : Margin) (level : Int) (v : Node) (vs : List Node) :
    (itemWork m level (v :: vs)).flatMap (Work.spans m) ++ [m.space level, closeArray] =
      m.space (level + 1) :: (outline m (level + 1) v ++ outlineItems m level vs) := by
  induction vs generalizing v with
  | nil => simp [itemWork, Work.spans, outlineItems]
  | cons u vs ih =>
    have hwork : itemWork m level (v :: u :: vs) =
        [.span (m.space (level + 1)), .node v (level + 1), .span comma, .span lineEnd] ++
          itemWork m level (u :: vs) := by simp [itemWork]
    rw [hwork, List.flatMap_append, List.append_assoc, ih]
    simp [Work.spans, outlineItems]

theorem flatMap_spans_entryWork (m : Margin) (level : Int) (k v : Node)
    (es : List (Node × Node)) :
    (entryWork m level ((k, v) :: es)).flatMap (Work.spans m) ++ [m.space level, closeObject] =
      m.space (level + 1) :: keySpan k :: colon ::
        (outline m (level + 1) v ++ outlineEntries m level es) := by
  induction es generalizing k v with
  | nil => simp [entryWork, Work.spans, outlineEntries]
  | cons e es ih =>
    obtain ⟨k', v'⟩ := e
    have hwork : entryWork m level ((k, v) :: (k', v') :: es) =
        [.span (m.space (level + 1)), .span (keySpan k), .span colon, .node v (level + 1),
          .span comma, .span lineEnd] ++ entryWork m level ((k', v') :: es) := by
      simp [entryWork]
    rw [hwork, List.flatMap_append, List.append_assoc, ih]
    simp [Work.spans, outlineEntries]

/-- Opening a node does not change what it comes to. -/
theorem flatMap_spans_open (m : Margin) (level : Int) (n : Node) :
    (n.open m level).flatMap (Work.spans m) = outline m level n := by
  cases n with
  | sequence fixed vs =>
    cases vs with
    | nil => rfl
    | cons v vs =>
      have hitems := flatMap_spans_itemWork m level v vs
      simp only [Node.open, List.flatMap_append, List.append_assoc]
      have hclose : [Work.span (m.space level), .span closeArray].flatMap (Work.spans m) =
          [m.space level, closeArray] := rfl
      rw [hclose, hitems]
      simp [outline, Work.spans]
  | mapping es =>
    cases es with
    | nil => rfl
    | cons e es =>
      obtain ⟨k, v⟩ := e
      have hentries := flatMap_spans_entryWork m level k v es
      simp only [Node.open, List.flatMap_append, List.append_assoc]
      have hclose : [Work.span (m.space level), .span closeObject].flatMap (Work.spans m) =
          [m.space level, closeObject] := rfl
      rw [hclose, hentries]
      simp [outline, Work.spans]
  | _ => rfl

theorem exceeded?_eq_none {l : Limits} {n : Node} {level : Int} (h : (Work.node n level).Fits l) :
    l.exceeded? level = none := by
  unfold Limits.exceeded?
  split
  case h_1 limit hlimit =>
    have hle := h limit hlimit
    rw [if_neg (by omega)]
  case h_2 => rfl

/-- Within the limits the loop puts out what all of its work comes to. -/
theorem workThrough_eq (m : Margin) (l : Limits) (stack : List Work) (out : List Span)
    (h : ∀ w ∈ stack, w.Fits l) :
    workThrough m l stack out = .ok (out.reverse ++ stack.flatMap (Work.spans m)) := by
  induction stack, out using workThrough.induct (m := m) (l := l) with
  | case1 out =>
    rw [workThrough]
    simp
  | case2 s stack out ih =>
    obtain ⟨-, hstack⟩ := List.forall_mem_cons.mp h
    rw [workThrough, ih hstack]
    simp [Work.spans]
  | case3 n level stack out e hexceeded =>
    rw [exceeded?_eq_none (List.forall_mem_cons.mp h).1] at hexceeded
    cases hexceeded
  | case4 n level stack out hexceeded ih =>
    obtain ⟨hn, hstack⟩ := List.forall_mem_cons.mp h
    have hopen : ∀ w ∈ n.open m level ++ stack, w.Fits l := by
      intro w hw
      obtain hw | hw := List.mem_append.mp hw
      · cases w with
        | span s => trivial
        | node c level' =>
          intro limit hlimit
          obtain ⟨rfl, hless⟩ := Node.of_mem_open hw
          have hle := hn limit hlimit
          omega
      · exact hstack w hw
    rw [workThrough, hexceeded]
    dsimp only
    rw [ih hopen, List.flatMap_append, flatMap_spans_open, List.flatMap_cons]
    rfl

/-- A node that nests no deeper than the limit is put out as its outline. -/
theorem renderSpans_eq (n : Node) (depth indent : Int) {maxDepth : Option Int}
    (h : ∀ limit, maxDepth = some limit → (n.nesting : Int) ≤ limit) :
    renderSpans n depth indent maxDepth = .ok (outline ⟨indent⟩ depth n) := by
  have hfits : ∀ w ∈ [Work.node n depth], w.Fits ⟨depth, maxDepth⟩ := by
    intro w hw
    rw [List.mem_singleton.mp hw]
    intro limit hlimit
    have hle := h limit hlimit
    dsimp only
    omega
  rw [renderSpans, workThrough_eq _ _ _ _ hfits]
  simp [Work.spans]

/-! ## The text of an outline -/

theorem Span.plain_cons (s : Span) (spans : List Span) :
    Span.plain (s :: spans) = s.text ++ Span.plain spans := by
  rw [Span.plain, List.map_cons, String.join_cons, Span.plain]

theorem Span.plain_append (spans spans' : List Span) :
    Span.plain (spans ++ spans') = Span.plain spans ++ Span.plain spans' := by
  rw [Span.plain, List.map_append, String.join_append, Span.plain, Span.plain]

/-- A line end and the white space after it are a line break. -/
theorem lineEnd_space (step level : Nat) :
    lineEnd.text ++ (Margin.space ⟨step⟩ level).text = Json.lineBreak (step * level) := by
  have hwidth : ((step : Int) * (level : Int)).toNat = step * level := by
    rw [← Int.natCast_mul, Int.toNat_natCast]
  rw [Margin.space, Json.lineBreak, hwidth]
  rfl

theorem lineEnd_space_succ (step level : Nat) :
    lineEnd.text ++ (Margin.space ⟨step⟩ ((level : Int) + 1)).text =
      Json.lineBreak (step * level + step) := by
  have hbreak := lineEnd_space step (level + 1)
  rwa [Nat.mul_succ, Int.natCast_succ] at hbreak

mutual

/-- The outline of decoded JSON is its form over several lines. -/
theorem plain_outline (step level : Nat) : ∀ v : Json.Value,
    Span.plain (outline ⟨step⟩ level (.ofJson v)) = Json.indentedAt step (step * level) v
  | .null => rfl
  | .bool b => by cases b <;> rfl
  | .int i => by simp [Node.ofJson, outline, Span.plain, scalarSpan, Json.indentedAt]
  | .float x => by
    simp [Node.ofJson, outline, Span.plain, scalarSpan, numberSpan, Json.indentedAt]
  | .string t => by simp [Node.ofJson, outline, Span.plain, scalarSpan, Json.indentedAt]
  | .array [] => by
    rw [Json.indentedAt]
    rfl
  | .array (v :: vs) => by
    have hv := plain_outline step (level + 1) v
    have hvs := plain_outlineItems step level vs
    rw [Int.natCast_succ, Nat.mul_succ] at hv
    rw [Node.ofJson, Node.ofItems, outline, Json.indentedAt, ← hv, ← hvs, ← lineEnd_space_succ]
    simp only [Span.plain_append, Span.plain_cons, String.append_assoc]
    rfl
  | .object [] => by
    rw [Json.indentedAt]
    rfl
  | .object ((k, v) :: ms) => by
    have hv := plain_outline step (level + 1) v
    have hms := plain_outlineMembers step level ms
    rw [Int.natCast_succ, Nat.mul_succ] at hv
    rw [Node.ofJson, Node.ofMembers, outline, Json.indentedAt, ← hv, ← hms, ← lineEnd_space_succ]
    simp only [Span.plain_append, Span.plain_cons, String.append_assoc]
    rfl

theorem plain_outlineItems (step level : Nat) : ∀ vs : List Json.Value,
    Span.plain (outlineItems ⟨step⟩ level (Node.ofItems vs)) =
      Json.indentedItems step (step * level) vs
  | [] => by
    rw [Node.ofItems, outlineItems, Json.indentedItems, ← lineEnd_space]
    simp only [Span.plain_cons, String.append_assoc]
    rfl
  | v :: vs => by
    have hv := plain_outline step (level + 1) v
    have hvs := plain_outlineItems step level vs
    rw [Int.natCast_succ, Nat.mul_succ] at hv
    rw [Node.ofItems, outlineItems, Json.indentedItems, ← hv, ← hvs, ← lineEnd_space_succ]
    simp only [Span.plain_append, Span.plain_cons, String.append_assoc]
    rfl

theorem plain_outlineMembers (step level : Nat) : ∀ ms : List (String × Json.Value),
    Span.plain (outlineEntries ⟨step⟩ level (Node.ofMembers ms)) =
      Json.indentedMembers step (step * level) ms
  | [] => by
    rw [Node.ofMembers, outlineEntries, Json.indentedMembers, ← lineEnd_space]
    simp only [Span.plain_cons, String.append_assoc]
    rfl
  | (k, v) :: ms => by
    have hv := plain_outline step (level + 1) v
    have hms := plain_outlineMembers step level ms
    rw [Int.natCast_succ, Nat.mul_succ] at hv
    rw [Node.ofMembers, outlineEntries, Json.indentedMembers, ← hv, ← hms, ← lineEnd_space_succ]
    simp only [Span.plain_append, Span.plain_cons, String.append_assoc]
    rfl

end

/-- Decoded JSON is rendered as it is laid out, further in by the depth of its first line. -/
theorem render_ofJson (v : Json.Value) (depth indent : Nat) {maxDepth : Option Int}
    (h : ∀ limit, maxDepth = some limit → ((Node.ofJson v).nesting : Int) ≤ limit) :
    render (.ofJson v) depth indent maxDepth =
      .ok (Json.indentedAt indent (indent * depth) v) := by
  rw [render, renderSpans_eq _ _ _ h]
  exact congrArg Except.ok (plain_outline indent depth v)

end Workbench.Tree
