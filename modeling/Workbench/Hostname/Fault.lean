import Workbench.Text.Quoted

/-!
# What is wrong with a name

Why a text is no name of a host, or a part of it no label. Positions are counted from one.
-/
namespace Workbench.Hostname

/-- A character in a label. -/
structure Place where
  char : Char
  position : Nat
  label : List Char
  deriving DecidableEq, Repr

/-- Why a text is no name of a host. -/
inductive Fault where
  | longName
  | emptyLabel
  | notComposed
  /-- Two hyphens stand where an encoded label has them. -/
  | innerHyphens
  | outerHyphen
  | leadingMark
  /-- The character stands in no label. -/
  | character (place : Place)
  /-- The character does not suit the others. -/
  | company (place : Place)
  /-- The joiner has nothing to join. -/
  | joiner (place : Place)
  | unknownDirection (place : Place)
  | undirectedStart (label : List Char)
  | wrongDirection (position : Nat) (isRightToLeft : Bool)
  | mixedDigits
  | undirectedEnd
  /-- Nothing follows the mark of an encoded label. -/
  | noContent
  | hyphenAtEnd
  /-- What follows the mark encodes nothing. -/
  | notEncoded
  deriving DecidableEq, Repr

namespace Place

def shownLabel (p : Place) : String := Text.quoted (String.ofList p.label)

/-- The number of the character, in at least four digits. -/
def code (p : Place) : String :=
  "U+" ++ String.ofList ((Text.hexDigits 4 p.char.toNat).map Char.toUpper)

end Place

namespace Fault

def message : Fault → String
  | longName => "Domain too long"
  | emptyLabel => "Empty Label"
  | notComposed => "Label must be in Normalization Form C"
  | innerHyphens => "Label has disallowed hyphens in 3rd and 4th position"
  | outerHyphen => "Label must not start or end with a hyphen"
  | leadingMark => "Label begins with an illegal combining character"
  | character p =>
    "Codepoint " ++ p.code ++ " at position " ++ toString p.position ++ " of " ++ p.shownLabel ++
      " not allowed"
  | company p =>
    "Codepoint " ++ p.code ++ " not allowed at position " ++ toString p.position ++ " in " ++
      p.shownLabel
  | joiner p =>
    "Unknown codepoint adjacent to joiner " ++ p.code ++ " at position " ++ toString p.position ++
      " in " ++ p.shownLabel
  | unknownDirection p =>
    "Unknown directionality in label " ++ p.shownLabel ++ " at position " ++ toString p.position
  | undirectedStart label =>
    "First codepoint in label " ++ Text.quoted (String.ofList label) ++
      " must be directionality L, R or AL"
  | wrongDirection position isRightToLeft =>
    "Invalid direction for codepoint at position " ++ toString position ++ " in a " ++
      (if isRightToLeft then "right-to-left" else "left-to-right") ++ " label"
  | mixedDigits => "Can not mix numeral types in a right-to-left label"
  | undirectedEnd => "Label ends with illegal codepoint directionality"
  | noContent => "Malformed A-label, no Punycode eligible content found"
  | hyphenAtEnd => "A-label must not end with a hyphen"
  | notEncoded => "Invalid A-label"

/-- The word for the sort of fault. -/
def typeName : Fault → String
  | character _ => "InvalidCodepoint"
  | company _ => "InvalidCodepointContext"
  | unknownDirection _ | undirectedStart _ | wrongDirection .. | mixedDigits | undirectedEnd =>
    "IDNABidiError"
  | _ => "IDNAError"

end Fault

end Workbench.Hostname
