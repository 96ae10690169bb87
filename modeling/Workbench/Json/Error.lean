import Workbench.Json.Value

/-!
# Why a text is not JSON

A text is refused for a fault at a place in it, for an integer with too many digits, or for
nesting beyond what the decoder follows. `DecodeError.message` is the one wording of each.
-/
namespace Workbench.Json

/-- What is wrong at a place in the text. -/
inductive Fault where
  | byteOrderMark
  | noValue
  | noName
  | noColon
  | noComma
  | extraData
  | unterminatedString
  | controlCharacter
  | badEscape
  | badUnicodeEscape
  deriving DecidableEq, Repr

def Fault.message : Fault → String
  | byteOrderMark => "Unexpected UTF-8 BOM (decode using utf-8-sig)"
  | noValue => "Expecting value"
  | noName => "Expecting property name enclosed in double quotes"
  | noColon => "Expecting ':' delimiter"
  | noComma => "Expecting ',' delimiter"
  | extraData => "Extra data"
  | unterminatedString => "Unterminated string starting at"
  | controlCharacter => "Invalid control character at"
  | badEscape => "Invalid \\escape"
  | badUnicodeEscape => "Invalid \\uXXXX escape"

/-- A place in a text: characters before it, and its line and column counted from 1. -/
structure Place where
  offset : Nat
  line : Nat
  column : Nat
  deriving DecidableEq, Repr

/-- The place after the first `offset` characters; only a line feed ends a line. -/
def Place.of (text : List Char) (offset : Nat) : Place :=
  let before := text.take offset
  { offset
    line := before.count '\n' + 1
    column := (before.reverse.takeWhile (· != '\n')).length + 1 }

/-- Why a text was refused. -/
inductive DecodeError where
  | malformed (fault : Fault) (place : Place)
  | longInteger (digits : Nat)
  | tooDeep (container : Container)
  deriving DecidableEq, Repr

/-- The most digits an integer may have. -/
def maxIntegerDigits : Nat := 4300

def DecodeError.message : DecodeError → String
  | malformed fault place =>
    fault.message ++ ": line " ++ toString place.line ++ " column " ++ toString place.column ++
      " (char " ++ toString place.offset ++ ")"
  | longInteger digits =>
    "Exceeds the limit (" ++ toString maxIntegerDigits ++
      " digits) for integer string conversion: value has " ++ toString digits ++
      " digits; use sys.set_int_max_str_digits() to increase the limit"
  | tooDeep .array =>
    "maximum recursion depth exceeded while decoding a JSON array from a unicode string"
  | tooDeep .object =>
    "maximum recursion depth exceeded while decoding a JSON object from a unicode string"

/-- Is the refusal a limit on nesting rather than on the text itself? -/
def DecodeError.isTooDeep : DecodeError → Bool
  | tooDeep _ => true
  | _ => false

end Workbench.Json
