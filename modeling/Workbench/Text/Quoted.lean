import Workbench.Number.Decimal
import Workbench.Text.Printable

/-!
# Quoted text

A text between quotes on one line, as values show the strings inside them and as messages name
what they are about. Characters that cannot be printed are written as escapes.
-/
namespace Workbench.Text

/-- The number as `width` hexadecimal digits. -/
def hexDigits (width n : Nat) : List Char := Number.padZeros width (Nat.toDigits 16 n)

/-- A character by its number. -/
def numbered (c : Char) : List Char :=
  if c.toNat < 0x100 then '\\' :: 'x' :: hexDigits 2 c.toNat
  else if c.toNat < 0x10000 then '\\' :: 'u' :: hexDigits 4 c.toNat
  else '\\' :: 'U' :: hexDigits 8 c.toNat

/-- A character of a text quoted by `delimiter`. -/
def quotedChar (delimiter c : Char) : List Char :=
  if c = delimiter || c = '\\' then ['\\', c]
  else if c = '\n' then ['\\', 'n']
  else if c = '\r' then ['\\', 'r']
  else if c = '\t' then ['\\', 't']
  else if isPrintable c then [c]
  else numbered c

/-- A text in single quotes, or in double quotes when it holds single ones and no double one. -/
def quoted (s : String) : String :=
  let cs := s.toList
  let delimiter := if cs.contains '\'' && !cs.contains '"' then '"' else '\''
  String.ofList (delimiter :: cs.flatMap (quotedChar delimiter) ++ [delimiter])

end Workbench.Text
