import Workbench.Tree.Node

/-!
# The outline of a node

The tree view is a sequence of spans, each a piece of text with a tag for the kind of thing it
shows. The spans of a node by structural recursion: a container opens, shows each child on a line of
its own one level further in, and closes; an empty one is a single span. This is what the tree
view shows, without regard to limits on nesting.
-/
namespace Workbench.Tree

/-! ## Tagged spans -/

/-- What a piece of text shows. -/
inductive Tag where
  | null
  | undefined
  | string
  | number
  | boolean
  | key
  | array
  | object
  | punct
  | other
  deriving DecidableEq, Repr

def Tag.name : Tag → String
  | null => "null"
  | undefined => "undefined"
  | string => "string"
  | number => "number"
  | boolean => "boolean"
  | key => "key"
  | array => "array"
  | object => "object"
  | punct => "punct"
  | other => "other"

/-- The style of a tag; punctuation has none. -/
def Tag.style : Tag → String
  | null => "magenta"
  | undefined => "dim italic"
  | string => "green"
  | number => "cyan"
  | boolean => "yellow"
  | key => "bold blue"
  | array => "bold"
  | object => "bold"
  | punct => ""
  | other => "red"

/-- A piece of text and its tag. -/
structure Span where
  text : String
  tag : Tag
  deriving DecidableEq, Repr

/-- The text of spans, one after the other. -/
def Span.plain (spans : List Span) : String := String.join (spans.map Span.text)

/-! ## Outlines -/

/-- Where a node is drawn: the level of its line, and spaces per level. Neither need be
positive, and a negative indentation is none. -/
structure Margin where
  indent : Int
  deriving DecidableEq, Repr

/-- The white space in front of a line at a level. -/
def Margin.space (m : Margin) (level : Int) : Span :=
  ⟨String.ofList (List.replicate (m.indent * level).toNat ' '), .punct⟩

/-- The span of a number. -/
def numberSpan (x : Number.Binary64) : Span := ⟨Json.floatText x, .number⟩

/-- The span of a node that is not a container. -/
def scalarSpan : Node → Span
  | .null => ⟨"null", .null⟩
  | .undefined => ⟨"undefined", .undefined⟩
  | .bool b => ⟨if b then "true" else "false", .boolean⟩
  | .int i => ⟨Json.integerText i, .number⟩
  | .float x => numberSpan x
  | .string s => ⟨Json.quote s, .string⟩
  | .other t => ⟨t, .other⟩
  | .sequence .. => ⟨"[]", .array⟩
  | .mapping .. => ⟨"\x7b\x7d", .object⟩

/-- The span of a key. -/
def keySpan (key : Node) : Span := ⟨Json.quote key.display, .key⟩

def lineEnd : Span := ⟨"\n", .punct⟩

def comma : Span := ⟨",", .punct⟩

def colon : Span := ⟨": ", .punct⟩

def openArray : Span := ⟨"[", .array⟩

def closeArray : Span := ⟨"]", .array⟩

def openObject : Span := ⟨"\x7b", .object⟩

def closeObject : Span := ⟨"\x7d", .object⟩

mutual

/-- The spans of a node whose own line is at `level`. -/
def outline (m : Margin) (level : Int) : Node → List Span
  | .sequence _ (v :: vs) =>
    [openArray, lineEnd, m.space (level + 1)] ++ outline m (level + 1) v ++
      outlineItems m level vs
  | .mapping ((k, v) :: es) =>
    [openObject, lineEnd, m.space (level + 1), keySpan k, colon] ++ outline m (level + 1) v ++
      outlineEntries m level es
  | n => [scalarSpan n]

/-- The spans after an item, of the items that follow and of the closing bracket. -/
def outlineItems (m : Margin) (level : Int) : List Node → List Span
  | [] => [lineEnd, m.space level, closeArray]
  | v :: vs =>
    [comma, lineEnd, m.space (level + 1)] ++ outline m (level + 1) v ++ outlineItems m level vs

/-- The spans after an entry, of the entries that follow and of the closing brace. -/
def outlineEntries (m : Margin) (level : Int) : List (Node × Node) → List Span
  | [] => [lineEnd, m.space level, closeObject]
  | (k, v) :: es =>
    [comma, lineEnd, m.space (level + 1), keySpan k, colon] ++ outline m (level + 1) v ++
      outlineEntries m level es

end

end Workbench.Tree
