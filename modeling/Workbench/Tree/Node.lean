import Workbench.Json.Encode
import Workbench.Text.Quoted

/-!
# Values beyond JSON

What the tree view can be given and what a configuration document can hold: decoded JSON, and
beyond it the absent value, tuples, mappings with keys of any kind, and foreign objects known only
by their text. `Node.display` is the plain text of a node as a key or a list item shows it.
-/
namespace Workbench.Tree

/-- A value of any origin. A sequence is `fixed` when it is a tuple rather than a list. -/
inductive Node where
  | null
  | undefined
  | bool (b : Bool)
  | int (i : Int)
  | float (x : Number.Binary64)
  | string (s : String)
  | other (text : String)
  | sequence (fixed : Bool) (items : List Node)
  | mapping (entries : List (Node × Node))
  deriving Repr, Inhabited

namespace Node

mutual

/-- A decoded JSON value as a node. -/
def ofJson : Json.Value → Node
  | .null => .null
  | .bool b => .bool b
  | .int i => .int i
  | .float x => .float x
  | .string s => .string s
  | .array vs => .sequence false (ofItems vs)
  | .object ms => .mapping (ofMembers ms)

/-- The items of an array as nodes. -/
def ofItems : List Json.Value → List Node
  | [] => []
  | v :: vs => ofJson v :: ofItems vs

/-- The members of an object as entries. -/
def ofMembers : List (String × Json.Value) → List (Node × Node)
  | [] => []
  | (k, v) :: ms => (.string k, ofJson v) :: ofMembers ms

end

mutual

/-- How deep containers nest inside the node: 0 for scalars and empty containers. -/
def nesting : Node → Nat
  | .sequence _ (v :: vs) => 1 + max (nesting v) (nestingItems vs)
  | .mapping ((_, v) :: es) => 1 + max (nesting v) (nestingEntries es)
  | _ => 0

/-- The deepest nesting among items. -/
def nestingItems : List Node → Nat
  | [] => 0
  | v :: vs => max (nesting v) (nestingItems vs)

/-- The deepest nesting among the values of entries. -/
def nestingEntries : List (Node × Node) → Nat
  | [] => 0
  | (_, v) :: es => max (nesting v) (nestingEntries es)

end

/-- The layout of a floating-point number as displayed text. -/
def floatLayout : Number.Layout :=
  { Json.floatLayout with nan := "nan", infinity := "inf", negativeInfinity := "-inf" }

mutual

/-- The text of a node inside another one, where strings are quoted. -/
def literal : Node → String
  | .null => "None"
  | .undefined => "undefined"
  | .bool b => if b then "True" else "False"
  | .int i => toString i
  | .float x => floatLayout.text x
  | .string s => Text.quoted s
  | .other t => t
  | .sequence false vs => "[" ++ String.intercalate ", " (literals vs) ++ "]"
  | .sequence true [v] => "(" ++ literal v ++ ",)"
  | .sequence true vs => "(" ++ String.intercalate ", " (literals vs) ++ ")"
  | .mapping es => "\x7b" ++ String.intercalate ", " (literalEntries es) ++ "\x7d"

/-- The texts of items. -/
def literals : List Node → List String
  | [] => []
  | v :: vs => literal v :: literals vs

/-- The texts of entries. -/
def literalEntries : List (Node × Node) → List String
  | [] => []
  | (k, v) :: es => (literal k ++ ": " ++ literal v) :: literalEntries es

end

/-- The text of a node on its own, where a string is itself. -/
def display : Node → String
  | .string s => s
  | n => literal n

mutual

/-- Can the node be a key? Lists and mappings cannot, nor tuples that hold them. -/
def isKey : Node → Bool
  | .sequence fixed vs => fixed && areKeys vs
  | .mapping _ => false
  | _ => true

/-- Can all of the nodes be keys? -/
def areKeys : List Node → Bool
  | [] => true
  | v :: vs => isKey v && areKeys vs

end

/-- The integer that a key equals, if it equals one. -/
def asInt? : Node → Option Int
  | .bool b => some (if b then 1 else 0)
  | .int i => some i
  | .float x => x.toInt?
  | _ => none

/-- Are two keys the same integer? -/
def sameInt (a b : Node) : Bool :=
  match a.asInt?, b.asInt? with
  | some i, some j => i == j
  | _, _ => false

mutual

/-- Are two keys the same? Numbers and booleans are compared by value; not-a-number and foreign
objects equal nothing. -/
def sameKey : Node → Node → Bool
  | .null, .null => true
  | .undefined, .undefined => true
  | .string s, .string t => s == t
  | .sequence _ vs, .sequence _ ws => sameKeys vs ws
  | .float x, .float y => (x != .nan && x == y) || sameInt (.float x) (.float y)
  | a, b => sameInt a b

/-- Are two tuples the same, item by item? -/
def sameKeys : List Node → List Node → Bool
  | [], [] => true
  | v :: vs, w :: ws => sameKey v w && sameKeys vs ws
  | _, _ => false

end

/-- Set an entry: a key that is there already stays, and takes the new value. -/
def putEntry (key value : Node) : List (Node × Node) → List (Node × Node)
  | [] => [(key, value)]
  | (k, v) :: rest =>
    if sameKey k key then (k, value) :: rest else (k, v) :: putEntry key value rest

/-- The mapping with these entries, put in one after the other; none if one of the keys cannot
be a key. -/
def mapping? (entries : List (Node × Node)) : Option Node :=
  if entries.all (fun e => e.1.isKey) then
    some (.mapping (entries.foldl (fun es e => putEntry e.1 e.2 es) []))
  else none

end Node

end Workbench.Tree
