import Workbench.Json.Value
import Workbench.Number.Reading
import Workbench.Record.Flaw

/-!
# Fields of a record

Lenient readers of single values, and of the fields of an object by name. A reader takes what is
clearly meant: `"yes"` for true, `"12"` or `12.0` for twelve; it never guesses.
-/
namespace Workbench.Record

open Json (Value Members)

/-- Two to the 63rd: integers of 64 bits are below it. -/
def wordBound : Int := 9223372036854775808

/-- Integers of 64 bits, the range in which whole floating-point numbers count as integers: the
ends themselves do not. -/
def isSmall (i : Int) : Bool := -wordBound < i && i < wordBound

/-- The truth value that a word stands for, in any letter case. -/
def boolOfWord? (s : String) : Option Bool :=
  if ["0", "f", "n", "no", "off", "false"].any (Text.sameAsciiCase s) then some false
  else if ["1", "t", "y", "on", "yes", "true"].any (Text.sameAsciiCase s) then some true
  else none

/-- The truth value that a number stands for. -/
def boolOfInt (i : Int) : Checked Bool :=
  if i = 0 then .good false else if i = 1 then .good true else .flaw .boolParsing

def readBool : Value → Checked Bool
  | .bool b => .good b
  | .string s =>
    match boolOfWord? s with
    | some b => .good b
    | none => .flaw .boolParsing
  | .int i => if -wordBound ≤ i && i < wordBound then boolOfInt i else .flaw .boolType
  | .float x =>
    match x.toInt? with
    | some i => if isSmall i then boolOfInt i else .flaw .boolType
    | none => .flaw .boolType
  | _ => .flaw .boolType

def readInt : Value → Checked Int
  | .int i => .good i
  | .bool b => .good (if b then 1 else 0)
  | .string s =>
    match Number.readLenient s with
    | .ok i => .good i
    | .error .tooLong => .flaw .intParsingSize
    | .error .malformed => .flaw .intParsing
  | .float x =>
    if !x.isFinite then .flaw .finiteNumber
    else
      match x.toInt? with
      | some i => if isSmall i then .good i else .flaw .intParsingSize
      | none => .flaw .intFromFloat
  | _ => .flaw .intType

def readFloat : Value → Checked Number.Binary64
  | .float x => .good x
  | .int i =>
    match Number.Binary64.ofInt i with
    | .infinite _ => .flaw .floatType
    | x => .good x
  | .bool b => .good (Number.Binary64.ofInt (if b then 1 else 0))
  | .string s =>
    match Number.readFloat? s with
    | some x => .good x
    | none => .flaw .floatParsing
  | _ => .flaw .floatType

def readString : Value → Checked String
  | .string s => .good s
  | _ => .flaw .stringType

/-- One of a list of words, taken for what `named?` says. -/
def readNamed {α : Type} (named? : String → Option α) : Value → Checked α
  | .string s =>
    match named? s with
    | some a => .good a
    | none => .flaw .enum
  | _ => .flaw .enum

/-- A value that may be null. -/
def optional {α : Type} (read : Value → Checked α) : Value → Checked (Option α)
  | .null => .good none
  | v => (read v).map some

/-- The names a field goes by, the preferred one first. Flaws are reported under that one. -/
structure FieldName where
  name : String
  otherName : Option String := none

/-- The value given for a field: under its preferred name if there, else under the other. -/
def FieldName.get? (f : FieldName) (ms : Members) : Option Value :=
  match ms.get? f.name with
  | some v => some v
  | none => f.otherName.bind ms.get?

/-- A field that must be given. -/
def required {α : Type} (f : FieldName) (read : Value → Checked α) (ms : Members) : Checked α :=
  Checked.under f.name <|
    match f.get? ms with
    | some v => read v
    | none => .flaw .missing

/-- A field that may be left out. -/
def defaulted {α : Type} (f : FieldName) (read : Value → Checked α) (value : α) (ms : Members) :
    Checked α :=
  match f.get? ms with
  | some v => Checked.under f.name (read v)
  | none => .good value

/-- A record out of an object. -/
def ofObject {α : Type} (read : Members → Checked α) : Value → Checked α
  | .object ms => read ms
  | _ => .flaw .modelType

end Workbench.Record
