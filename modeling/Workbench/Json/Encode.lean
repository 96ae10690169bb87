import Workbench.Json.Value

/-!
# Writing JSON

Two written forms of a value: `compact`, on one line without spaces, as requests are sent, and
`indented`, as buffers are formatted. Text is not reduced to ASCII: only the quote, the
backslash and the control characters are escaped.
-/
namespace Workbench.Json

/-- Floating-point numbers are written positionally from `1e-4` up to below `1e16`, and
otherwise with a signed exponent of at least two digits. -/
def floatLayout : Number.Layout where
  least := -4
  most := 15
  exponentWidth := 2
  nan := "NaN"
  infinity := "Infinity"
  negativeInfinity := "-Infinity"

/-- One hexadecimal digit, in lower case. -/
def hexChar (n : Nat) : Char := Nat.digitChar n

/-- A character inside quotes. -/
def encodeChar (c : Char) : List Char :=
  if c = '"' then ['\\', '"']
  else if c = '\\' then ['\\', '\\']
  else if c = '\n' then ['\\', 'n']
  else if c = '\r' then ['\\', 'r']
  else if c = '\t' then ['\\', 't']
  else if c = '\x08' then ['\\', 'b']
  else if c = '\x0c' then ['\\', 'f']
  else if c.toNat < 0x20 then
    ['\\', 'u', '0', '0', hexChar (c.toNat / 16), hexChar (c.toNat % 16)]
  else [c]

/-- A text in quotes. -/
def quoteChars (cs : List Char) : List Char := '"' :: cs.flatMap encodeChar ++ ['"']

def quote (s : String) : String := String.ofList (quoteChars s.toList)

/-- The written form of a scalar. -/
def integerText (i : Int) : String := toString i

def floatText (x : Number.Binary64) : String := floatLayout.text x

mutual

/-- A value on one line, separated by bare commas and colons. -/
def compact : Value → String
  | .null => "null"
  | .bool b => if b then "true" else "false"
  | .int i => integerText i
  | .float x => floatText x
  | .string s => quote s
  | .array [] => "[]"
  | .array (v :: vs) => "[" ++ compact v ++ compactItems vs
  | .object [] => "\x7b\x7d"
  | .object ((k, v) :: ms) => "\x7b" ++ quote k ++ ":" ++ compact v ++ compactMembers ms

/-- The items after the first, and the closing bracket. -/
def compactItems : List Value → String
  | [] => "]"
  | v :: vs => "," ++ compact v ++ compactItems vs

/-- The members after the first, and the closing brace. -/
def compactMembers : List (String × Value) → String
  | [] => "\x7d"
  | (k, v) :: ms => "," ++ quote k ++ ":" ++ compact v ++ compactMembers ms

end

/-- A line break and the indentation after it. -/
def lineBreak (width : Nat) : String := "\n" ++ String.ofList (List.replicate width ' ')

mutual

/-- A value over several lines: each item and member of a container on a line of its own,
`step` spaces further in than the container, which is itself at `width` spaces. -/
def indentedAt (step width : Nat) : Value → String
  | .array (v :: vs) =>
    "[" ++ lineBreak (width + step) ++ indentedAt step (width + step) v ++
      indentedItems step width vs
  | .object ((k, v) :: ms) =>
    "\x7b" ++ lineBreak (width + step) ++ quote k ++ ": " ++ indentedAt step (width + step) v ++
      indentedMembers step width ms
  | .null => "null"
  | .bool b => if b then "true" else "false"
  | .int i => integerText i
  | .float x => floatText x
  | .string s => quote s
  | .array [] => "[]"
  | .object [] => "\x7b\x7d"

/-- The items after the first, and the closing bracket. -/
def indentedItems (step width : Nat) : List Value → String
  | [] => lineBreak width ++ "]"
  | v :: vs =>
    "," ++ lineBreak (width + step) ++ indentedAt step (width + step) v ++
      indentedItems step width vs

/-- The members after the first, and the closing brace. -/
def indentedMembers (step width : Nat) : List (String × Value) → String
  | [] => lineBreak width ++ "\x7d"
  | (k, v) :: ms =>
    "," ++ lineBreak (width + step) ++ quote k ++ ": " ++ indentedAt step (width + step) v ++
      indentedMembers step width ms

end

/-- A value over several lines, `step` spaces per level. -/
def indented (step : Nat) (v : Value) : String := indentedAt step 0 v

mutual

/-- Does the value hold a number that the standard grammar cannot write? -/
def hasNonFinite : Value → Bool
  | .float x => !x.isFinite
  | .array vs => anyNonFinite vs
  | .object ms => anyNonFiniteMember ms
  | _ => false

/-- Does any of the items? -/
def anyNonFinite : List Value → Bool
  | [] => false
  | v :: vs => hasNonFinite v || anyNonFinite vs

/-- Does any of the members? -/
def anyNonFiniteMember : List (String × Value) → Bool
  | [] => false
  | (_, v) :: ms => hasNonFinite v || anyNonFiniteMember ms

end

end Workbench.Json
