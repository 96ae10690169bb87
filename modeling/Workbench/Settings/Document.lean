import Workbench.Yaml.Value

/-!
# The configuration document

The user's document gives settings by name. It is a mapping, or else a list of pairs; an empty
document, and any value that is empty or zero, gives nothing.
-/
namespace Workbench.Settings

open Workbench.Tree (Node)

/-- Why a configuration document cannot be used. -/
inductive DocumentFault where
  | unreadable (fault : Yaml.Fault)
  /-- The document is no collection of pairs. -/
  | notPairs
  /-- An item of the document that should be a pair has another length. -/
  | wrongLength (item length : Nat)
  /-- A setting has a name that is no text. -/
  | unnamed
  deriving DecidableEq, Repr

/-- The message about an item that is no pair. -/
def wrongLengthMessage (item length : Nat) : String :=
  "dictionary update sequence element #" ++ toString item ++ " has length " ++ toString length ++
    "; 2 is required"

/-- Is the value empty or zero? -/
def isVoid : Node → Bool
  | .null | .bool false | .sequence _ [] | .mapping [] => true
  | .int i => i == 0
  | .float (.finite _ m _ _) => m == 0
  | .string s => s.isEmpty
  | _ => false

/-- The two parts of an item of a document. -/
def pairOf (item : Nat) : Node → Except DocumentFault (Node × Node)
  | .string s =>
    match s.toList with
    | [a, b] => .ok (.string a.toString, .string b.toString)
    | cs => .error (.wrongLength item cs.length)
  | .sequence _ [a, b] => if a.isKey then .ok (a, b) else .error .notPairs
  | .sequence _ vs => .error (.wrongLength item vs.length)
  | .mapping [(a, _), (b, _)] => .ok (a, b)
  | .mapping es => .error (.wrongLength item es.length)
  | _ => .error .notPairs

/-- The items from the given one on as pairs. -/
def pairsOf (item : Nat) : List Node → Except DocumentFault (List (Node × Node))
  | [] => .ok []
  | v :: vs => do pure ((← pairOf item v) :: (← pairsOf (item + 1) vs))

/-- The members of a document. -/
def membersOf (document : Node) : Except DocumentFault (List (Node × Node)) :=
  if isVoid document then .ok []
  else
    match document with
    | .mapping es => .ok es
    | .sequence _ vs =>
      (pairsOf 0 vs).map fun ps => ps.foldl (fun es p => Node.putEntry p.1 p.2 es) []
    | .string _ => .error (.wrongLength 0 1)
    | _ => .error .notPairs

/-- The name that a key is. -/
def nameOf : Node × Node → Except DocumentFault (String × Node)
  | (.string name, v) => .ok (name, v)
  | _ => .error .unnamed

/-- What a document gives, by the names it uses. -/
def readDocument (text : String) : Except DocumentFault (List (String × Node)) :=
  match Yaml.read text with
  | .error f => .error (.unreadable f)
  | .ok v => (membersOf v).bind fun ms => ms.mapM nameOf

end Workbench.Settings
