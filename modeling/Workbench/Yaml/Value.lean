import Workbench.Tree.Node
import Workbench.Yaml.Node

/-!
# Values of a document

What the nodes of a document stand for. Members of other mappings that a mapping takes over are put
in first. A date is known by its text alone. Bytes are written as letters, four for three bytes,
with equals signs to fill up the last four; other characters do not count.
-/
namespace Workbench.Yaml

/-! ## Bytes -/

/-- The number from 0 to 63 that a letter stands for. -/
def sextet? (c : Char) : Option Nat :=
  if 'A' ≤ c && c ≤ 'Z' then some (c.toNat - 'A'.toNat)
  else if 'a' ≤ c && c ≤ 'z' then some (c.toNat - 'a'.toNat + 26)
  else if c.isDigit then some (c.toNat - '0'.toNat + 52)
  else if c == '+' then some 62
  else if c == '/' then some 63
  else none

/-- The bytes that letters stand for. `place` is how many letters of the current four have been
read, `held` is what they leave over, and `fill` counts the equals signs behind them. -/
def bytesOf? (place held fill : Nat) : List Char → Option (List Nat)
  | [] => if place = 0 then some [] else none
  | c :: rest =>
    if c == '=' then
      if 2 ≤ place && 4 ≤ place + fill + 1 then some []
      else bytesOf? place held (if 2 ≤ place then fill + 1 else fill) rest
    else
      match sextet? c with
      | none => bytesOf? place held fill rest
      | some n =>
        if place = 0 then bytesOf? 1 n 0 rest
        else if place = 1 then (bytesOf? 2 (n % 16) 0 rest).map ((held * 4 + n / 16) :: ·)
        else if place = 2 then (bytesOf? 3 (n % 4) 0 rest).map ((held * 16 + n / 4) :: ·)
        else (bytesOf? 0 0 0 rest).map ((held * 64 + n) :: ·)

open Number (Binary64)

/-! ## Scalars -/

/-- The whole number in a base that a text holds. -/
def wholeIn (base : Nat) (cs : List Char) : Except Fault Int :=
  if base = 10 && Number.isDigits cs && Number.longestInt < cs.length then
    .error (.longInteger cs.length)
  else
    match Number.readWholeIn? base (String.ofList cs) with
    | some i => .ok i
    | none => .error (.notInteger base (String.ofList cs))

/-- An integer: binary, octal, hexadecimal, in base sixty or decimal. -/
def readInt (text : String) : Except Fault Int := do
  let (negative, ds) := Number.splitSign (text.toList.filter (· != '_'))
  let i ← match ds with
    | [] => throw .noDigits
    | ['0'] => pure 0
    | '0' :: 'b' :: rest => wholeIn 2 rest
    | '0' :: 'x' :: rest => wholeIn 16 rest
    | '0' :: _ => wholeIn 8 ds
    | _ =>
      if ds.contains ':' then
        (Tag.places ds).foldlM (fun n p => (wholeIn 10 p).map (n * 60 + ·)) 0
      else wholeIn 10 ds
  pure (if negative then -i else i)

/-- A decimal. -/
def decimal (cs : List Char) : Except Fault Binary64 :=
  match Number.readDecimal? cs with
  | some x => .ok x
  | none => .error (.notFloat (String.ofList cs))

/-- The sum of numbers times the powers of sixty from `60 ^ power` on. -/
def sumOfPlaces : Nat → Binary64 → List Binary64 → Except Fault Binary64
  | _, sum, [] => .ok sum
  | power, sum, x :: rest =>
    match Binary64.ofInt (Nat.pow 60 power : Nat) with
    | .infinite _ => .error .hugePlace
    | place => sumOfPlaces (power + 1) (sum.add (x.mul place)) rest

/-- A floating-point number: a decimal, in base sixty, or a word. -/
def readFloat (text : String) : Except Fault Binary64 := do
  let cs := (text.toList.filter (· != '_')).map Char.toLower
  if cs.isEmpty then throw .noDigits
  let (negative, unsigned) := Number.splitSign cs
  let x ← match String.ofList unsigned with
    | ".inf" => pure (.infinite false)
    | ".nan" => pure .nan
    | _ =>
      if unsigned.contains ':' then do
        sumOfPlaces 0 (.zero false) (← (Tag.places unsigned).mapM decimal).reverse
      else decimal unsigned
  pure (if negative then x.neg else x)

/-- A truth value. -/
def readBool (text : String) : Except Fault Bool :=
  let word := text.map Char.toLower
  if word ∈ ["yes", "true", "on"] then .ok true
  else if word ∈ ["no", "false", "off"] then .ok false
  else .error .notBool

/-- Bytes count as the text they encode. -/
def readBinary (text : String) : Except Fault Tree.Node :=
  if text.toList.all fun c => c.toNat < 0x80 then
    match bytesOf? 0 0 0 text.toList with
    | some bytes =>
      match Text.decodeUtf8 bytes with
      | .ok cs => .ok (.string (String.ofList cs))
      | .error _ => .ok (.other text)
    | none => .error .malformed
  else .error .malformed

/-- The value of a scalar. -/
def scalarValue (tag : Tag) (text : String) : Except Fault Tree.Node :=
  match tag with
  | .null => .ok .null
  | .bool => (readBool text).map .bool
  | .int => (readInt text).map .int
  | .float => (readFloat text).map .float
  | .moment =>
    match Moment.ofText? text.toList with
    | none => .error .notMoment
    | some m =>
      match m.fault? with
      | some f => .error (.moment f)
      | none => .ok (.other text)
  | .string => .ok (.string text)
  | .binary => readBinary text
  | _ => .error .malformed

/-! ## Collections -/

namespace Node

def tag : Node → Tag
  | scalar t _ | sequence t _ | mapping t _ => t

def withTag (t : Tag) : Node → Node
  | scalar _ s => scalar t s
  | sequence _ items => sequence t items
  | mapping _ pairs => mapping t pairs

/-- The members of a mapping. -/
def pairs? : Node → Except Fault (List (Node × Node))
  | mapping _ ps => .ok ps
  | _ => .error .malformed

/-- The members that are taken over from a mapping, or from the mappings of a sequence. Of these the
earlier ones count more, so that they come last. -/
def taken : Node → Except Fault (List (Node × Node))
  | mapping _ ps => .ok ps
  | sequence _ items => (items.mapM pairs?).map fun all => all.reverse.flatten
  | scalar _ _ => .error .malformed

mutual

/-- The node with members taken over where it asks for them. -/
def merged : Node → Except Fault Node
  | .scalar t s => .ok (.scalar t s)
  | .sequence t items => (mergedItems items).map (.sequence t)
  | .mapping t ps => (mergedPairs ps).map fun (foreign, own) => .mapping t (foreign ++ own)

def mergedItems : List Node → Except Fault (List Node)
  | [] => .ok []
  | n :: rest => do pure ((← merged n) :: (← mergedItems rest))

/-- The members taken over, and the others. -/
def mergedPairs : List (Node × Node) → Except Fault (List (Node × Node) × List (Node × Node))
  | [] => .ok ([], [])
  | (k, v) :: rest => do
    let k ← merged k
    let v ← merged v
    let foreign ← if k.tag = .merge then v.taken else pure []
    let (others, own) ← mergedPairs rest
    match k.tag with
    | .merge => pure (foreign ++ others, own)
    | .default => pure (others, (k.withTag .string, v) :: own)
    | _ => pure (others, (k, v) :: own)

end

mutual

/-- The value that a node stands for. -/
def value : Node → Except Fault Tree.Node
  | .scalar t s => scalarValue t s
  | .sequence .sequence items => (values items).map (.sequence false)
  | .sequence .pairs items => (singles items).map (.sequence false)
  | .mapping .mapping ps => (entries ps).map fun es => (Tree.Node.mapping? es).getD .null
  | .mapping .set ps => (entries ps).map fun es => .sequence false (es.map Prod.fst)
  | _ => .error .malformed

def values : List Node → Except Fault (List Tree.Node)
  | [] => .ok []
  | n :: rest => do pure ((← value n) :: (← values rest))

/-- The members of a mapping. A collection cannot be a key. -/
def entries : List (Node × Node) → Except Fault (List (Tree.Node × Tree.Node))
  | [] => .ok []
  | (k, v) :: rest => do
    let k ← value k
    if !k.isKey then throw .malformed
    let v ← value v
    pure ((k, v) :: (← entries rest))

/-- Mappings with one member each, as pairs. -/
def singles : List Node → Except Fault (List Tree.Node)
  | [] => .ok []
  | .mapping _ [(k, v)] :: rest => do
    let pair := Tree.Node.sequence true [← value k, ← value v]
    pure (pair :: (← singles rest))
  | _ :: _ => .error .malformed

end

end Node

/-- The value of a document. An empty text is null. -/
def read (text : String) : Except Fault Tree.Node := do
  match ← Node.ofText? (Text.unifyLineEnds text.toList) with
  | none => pure .null
  | some n => (← n.merged).value

end Workbench.Yaml
