import Workbench.Proofs.Tree.Render

/-!
# The loop and the recursion

The loop over the stack of work refines the structural recursion, and its limit is exact: a node is put
out as without a limit when it nests no deeper than that, and is refused when it does, wherever on the
stack the part lies that is too deep.
-/
namespace Workbench.Tree

/-! ## The structural recursion -/

theorem Node.exists_nestingItems_le {vs : List Node} (h : vs ≠ []) :
    ∃ v ∈ vs, Node.nestingItems vs ≤ v.nesting := by
  induction vs with
  | nil => exact absurd rfl h
  | cons v vs ih =>
    rw [nestingItems]
    by_cases hvs : vs = []
    · subst hvs
      exact ⟨v, List.mem_cons_self, by simp [nestingItems]⟩
    · obtain ⟨u, hu, hle⟩ := ih hvs
      obtain hmax | hmax := Nat.le_total (Node.nestingItems vs) v.nesting
      · exact ⟨v, List.mem_cons_self, Nat.max_le.mpr ⟨Nat.le_refl _, hmax⟩⟩
      · exact ⟨u, List.mem_cons_of_mem _ hu, Nat.max_le.mpr ⟨Nat.le_trans hmax hle, hle⟩⟩

theorem Node.exists_nestingEntries_le {es : List (Node × Node)} (h : es ≠ []) :
    ∃ e ∈ es, Node.nestingEntries es ≤ e.2.nesting := by
  rw [nestingEntries_eq]
  obtain ⟨v, hv, hle⟩ := exists_nestingItems_le (mt List.map_eq_nil_iff.mp h)
  obtain ⟨e, he, rfl⟩ := List.mem_map.mp hv
  exact ⟨e, he, hle⟩

theorem mem_itemWork_of_mem (m : Margin) (level : Int) {v : Node} {vs : List Node} (h : v ∈ vs) :
    .node v (level + 1) ∈ itemWork m level vs := by
  induction vs with
  | nil => cases h
  | cons u vs ih =>
    rw [itemWork]
    obtain rfl | h := List.mem_cons.mp h
    · simp
    · exact List.mem_append_right _ (ih h)

theorem mem_entryWork_of_mem (m : Margin) (level : Int) {e : Node × Node}
    {es : List (Node × Node)} (h : e ∈ es) : .node e.2 (level + 1) ∈ entryWork m level es := by
  induction es with
  | nil => cases h
  | cons f es ih =>
    rw [entryWork]
    obtain rfl | h := List.mem_cons.mp h
    · simp
    · exact List.mem_append_right _ (ih h)

/-- The deepest of the children is among what a node opens into. -/
theorem Node.exists_mem_open (m : Margin) (level : Int) {n : Node} (h : 0 < n.nesting) :
    ∃ c, .node c (level + 1) ∈ n.open m level ∧ n.nesting ≤ c.nesting + 1 := by
  cases n with
  | sequence fixed vs =>
    cases vs with
    | nil => cases h
    | cons v vs =>
      obtain ⟨c, hc, hle⟩ := Node.exists_nestingItems_le (List.cons_ne_nil v vs)
      refine ⟨c, ?_, ?_⟩
      · have hmem := mem_itemWork_of_mem m level hc
        simp [Node.open, hmem]
      · rw [Node.nestingItems] at hle
        rw [Node.nesting]
        omega
  | mapping es =>
    cases es with
    | nil => cases h
    | cons e es =>
      obtain ⟨f, hf, hle⟩ := Node.exists_nestingEntries_le (List.cons_ne_nil e es)
      refine ⟨f.2, ?_, ?_⟩
      · have hmem := mem_entryWork_of_mem m level hf
        simp [Node.open, hmem]
      · rw [Node.nestingEntries] at hle
        rw [Node.nesting]
        omega
  | _ => cases h

theorem exceeded?_of_limit {l : Limits} {limit : Int} (hlimit : l.maxDepth = some limit)
    (level : Int) :
    l.exceeded? level = if limit < level - l.start then some ⟨limit⟩ else none := by
  unfold Limits.exceeded?
  rw [hlimit]

/-- One that nests too deep and is not refused itself has a child that nests too deep. -/
theorem exists_not_fits (m : Margin) {l : Limits} {n : Node} {level : Int}
    (hdeep : ¬ (Work.node n level).Fits l) (hexceeded : l.exceeded? level = none) :
    ∃ w ∈ n.open m level, ¬ w.Fits l := by
  obtain ⟨limit, hdeep⟩ := Classical.not_forall.mp hdeep
  obtain ⟨hlimit, hdeep⟩ := Classical.not_imp.mp hdeep
  rw [exceeded?_of_limit hlimit] at hexceeded
  have hlevel : ¬ limit < level - l.start := fun h => by simp [h] at hexceeded
  obtain ⟨c, hc, hle⟩ := Node.exists_mem_open m level (n := n) (by omega)
  refine ⟨.node c (level + 1), hc, fun hfits => ?_⟩
  have hchild := hfits limit hlimit
  omega

/-- The loop gives up if any part of its work nests too deep. -/
theorem workThrough_eq_error (m : Margin) {l : Limits} {limit : Int} (hlimit : l.maxDepth = some limit)
    (stack : List Work) (out : List Span) (h : ∃ w ∈ stack, ¬ w.Fits l) :
    workThrough m l stack out = .error ⟨limit⟩ := by
  induction stack, out using workThrough.induct (m := m) (l := l) with
  | case1 out =>
    obtain ⟨w, hw, -⟩ := h
    cases hw
  | case2 s stack out ih =>
    obtain ⟨w, hw, hdeep⟩ := h
    obtain rfl | hw := List.mem_cons.mp hw
    · exact absurd trivial hdeep
    · rw [workThrough]
      exact ih ⟨w, hw, hdeep⟩
  | case3 n level stack out e hexceeded =>
    rw [workThrough, hexceeded]
    rw [exceeded?_of_limit hlimit, Option.ite_none_right_eq_some] at hexceeded
    rw [← Option.some.inj hexceeded.2]
  | case4 n level stack out hexceeded ih =>
    rw [workThrough, hexceeded]
    refine ih ?_
    obtain ⟨w, hw, hdeep⟩ := h
    obtain rfl | hw := List.mem_cons.mp hw
    · obtain ⟨c, hc, hchild⟩ := exists_not_fits m hdeep hexceeded
      exact ⟨c, List.mem_append_left _ hc, hchild⟩
    · exact ⟨w, List.mem_append_right _ hw, hdeep⟩

/-- A node that nests deeper than the limit is refused. -/
theorem renderSpans_eq_error (n : Node) (depth indent : Int) {limit : Int} (h : limit < n.nesting) :
    renderSpans n depth indent (some limit) = .error ⟨limit⟩ := by
  refine workThrough_eq_error ⟨indent⟩ rfl _ _ ⟨_, List.mem_singleton.mpr rfl, fun hfits => ?_⟩
  have hle := hfits limit rfl
  dsimp only at hle
  omega

end Workbench.Tree
