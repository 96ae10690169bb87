import Workbench.Tree.Outline

/-!
# Rendering with a work stack

The spans of a node, computed with an explicit stack of work in place of recursion, so that the
depth of a node is bounded by nothing but an optional limit. The loop ends because each step
lowers the weight of the stack.
-/
namespace Workbench.Tree

/-- What is left to do: a span to put out, or a node to open at a level. -/
inductive Work where
  | span (s : Span)
  | node (n : Node) (level : Int)
  deriving Repr

mutual

/-- The weight of a node: more than that of the work it opens into. -/
def Node.weight : Node → Nat
  | .sequence _ vs => 6 + Node.weightItems vs
  | .mapping es => 6 + Node.weightEntries es
  | _ => 2

/-- The weight of items with the spans around them. -/
def Node.weightItems : List Node → Nat
  | [] => 0
  | v :: vs => 3 + v.weight + Node.weightItems vs

/-- The weight of entries with the spans around them. -/
def Node.weightEntries : List (Node × Node) → Nat
  | [] => 0
  | (_, v) :: es => 5 + v.weight + Node.weightEntries es

end

def Work.weight : Work → Nat
  | span _ => 1
  | node n _ => n.weight

/-- The weight of a stack of work. -/
def stackWeight : List Work → Nat
  | [] => 0
  | w :: stack => w.weight + stackWeight stack

/-- The work of the items of a sequence: a comma after each but the last. -/
def itemWork (m : Margin) (level : Int) : List Node → List Work
  | [] => []
  | v :: vs =>
    [.span (m.space (level + 1)), .node v (level + 1)] ++
      (if vs.isEmpty then [] else [.span comma]) ++ [.span lineEnd] ++ itemWork m level vs

/-- The work of the entries of a mapping: a comma after each but the last. -/
def entryWork (m : Margin) (level : Int) : List (Node × Node) → List Work
  | [] => []
  | (k, v) :: es =>
    [.span (m.space (level + 1)), .span (keySpan k), .span colon, .node v (level + 1)] ++
      (if es.isEmpty then [] else [.span comma]) ++ [.span lineEnd] ++ entryWork m level es

theorem stackWeight_append (a b : List Work) :
    stackWeight (a ++ b) = stackWeight a + stackWeight b := by
  induction a with
  | nil => simp [stackWeight]
  | cons w a ih => simp [stackWeight, ih, Nat.add_assoc]

theorem stackWeight_itemWork_le (m : Margin) (level : Int) (vs : List Node) :
    stackWeight (itemWork m level vs) ≤ Node.weightItems vs := by
  induction vs with
  | nil => simp [itemWork, stackWeight]
  | cons v vs ih =>
    by_cases h : vs.isEmpty <;>
      simp [itemWork, stackWeight, Node.weightItems, Work.weight, h] <;> omega

theorem stackWeight_entryWork_le (m : Margin) (level : Int) (es : List (Node × Node)) :
    stackWeight (entryWork m level es) ≤ Node.weightEntries es := by
  induction es with
  | nil => simp [entryWork, stackWeight]
  | cons e es ih =>
    obtain ⟨k, v⟩ := e
    by_cases h : es.isEmpty <;>
      simp [entryWork, stackWeight, Node.weightEntries, Work.weight, h] <;> omega

/-- What a node opens into: a container's brackets with its children between them. -/
def Node.open (m : Margin) (level : Int) : Node → List Work
  | .sequence _ (v :: vs) =>
    [.span openArray, .span lineEnd] ++ itemWork m level (v :: vs) ++
      [.span (m.space level), .span closeArray]
  | .mapping (e :: es) =>
    [.span openObject, .span lineEnd] ++ entryWork m level (e :: es) ++
      [.span (m.space level), .span closeObject]
  | n => [.span (scalarSpan n)]

/-- Opening a node takes weight away. -/
theorem stackWeight_open_lt (m : Margin) (level : Int) (n : Node) :
    stackWeight (n.open m level) < n.weight := by
  cases n with
  | sequence fixed vs =>
    cases vs with
    | nil => simp [Node.open, stackWeight, Work.weight, Node.weight]; omega
    | cons v vs =>
      have h := stackWeight_itemWork_le m level (v :: vs)
      simp only [Node.open, stackWeight_append, Node.weight]
      simp only [stackWeight, Work.weight] at h ⊢
      omega
  | mapping es =>
    cases es with
    | nil => simp [Node.open, stackWeight, Work.weight, Node.weight]; omega
    | cons e es =>
      have h := stackWeight_entryWork_le m level (e :: es)
      simp only [Node.open, stackWeight_append, Node.weight]
      simp only [stackWeight, Work.weight] at h ⊢
      omega
  | _ => simp [Node.open, stackWeight, Work.weight, Node.weight]

/-- Nesting went beyond the limit. -/
structure DepthExceeded where
  limit : Int
  deriving DecidableEq, Repr

def DepthExceeded.message (e : DepthExceeded) : String :=
  "JSON nesting exceeds maximum render depth of " ++ toString e.limit

/-- The limits of a rendering: the level it starts at, and how far below that it may go. -/
structure Limits where
  start : Int
  maxDepth : Option Int
  deriving DecidableEq, Repr

/-- Is the level beyond the limit? -/
def Limits.exceeded? (l : Limits) (level : Int) : Option DepthExceeded :=
  match l.maxDepth with
  | some limit => if limit < level - l.start then some ⟨limit⟩ else none
  | none => none

/-- Work through the stack; `out` holds the spans so far, last first. -/
def workThrough (m : Margin) (l : Limits) :
    List Work → List Span → Except DepthExceeded (List Span)
  | [], out => .ok out.reverse
  | .span s :: stack, out => workThrough m l stack (s :: out)
  | .node n level :: stack, out =>
    match l.exceeded? level with
    | some e => .error e
    | none => workThrough m l (n.open m level ++ stack) out
termination_by stack => stackWeight stack
decreasing_by
  · simp [stackWeight, Work.weight]
  · have h := stackWeight_open_lt m level n
    rw [stackWeight_append]
    simp only [stackWeight, Work.weight] at h ⊢
    omega

/-- The spans of a node whose own line is at `depth`, unless it nests deeper than `maxDepth`. -/
def renderSpans (n : Node) (depth : Int) (indent : Int) (maxDepth : Option Int) :
    Except DepthExceeded (List Span) :=
  workThrough ⟨indent⟩ ⟨depth, maxDepth⟩ [.node n depth] []

/-- The plain text of a node. -/
def render (n : Node) (depth : Int) (indent : Int) (maxDepth : Option Int) :
    Except DepthExceeded String :=
  (renderSpans n depth indent maxDepth).map Span.plain

end Workbench.Tree
