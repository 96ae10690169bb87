import Workbench.Text.Blank

/-!
# Comparing words without regard to case

Words sent by the service are recognised in any letter case. Two characters outside ASCII have
an ASCII letter as their case partner and take part: the Kelvin sign, whose lower case is `k`,
and the dotless i, whose upper case is `I`. No other character's case form is one ASCII letter
of the words compared here.
-/
namespace Workbench.Text

/-- The lower-case form of a character, as far as it is an ASCII letter. -/
def lowerChar (c : Char) : Char :=
  if c.toNat = 0x212A then 'k' else c.toLower

/-- The upper-case form of a character, as far as it is an ASCII letter. -/
def upperChar (c : Char) : Char :=
  if c.toNat = 0x131 then 'I' else if c.toNat = 0x17F then 'S' else c.toUpper

/-- Do the two texts agree once both are put in lower case? -/
def sameLower (a b : String) : Bool :=
  a.toList.map lowerChar == b.toList.map lowerChar

/-- Do the two texts agree once both are put in upper case? -/
def sameUpper (a b : String) : Bool :=
  a.toList.map upperChar == b.toList.map upperChar

/-- Do the two texts agree up to the case of ASCII letters? -/
def sameAsciiCase (a b : String) : Bool :=
  a.toList.map Char.toLower == b.toList.map Char.toLower

end Workbench.Text
