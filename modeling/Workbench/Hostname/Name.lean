import Workbench.Hostname.Label
import Workbench.Hostname.Punycode
import Workbench.Text.Lines

/-!
# Names in ASCII

The name of a host in ASCII: each label that is not ASCII is encoded behind a mark. Labels that
are ASCII are checked all the same, and encoded ones by what they encode.
-/
namespace Workbench.Hostname

/-- What an encoded label begins with. -/
def encodedMark : List Char := "xn--".toList

def longestLabel : Nat := 63

/-- The dots that separate labels. -/
def isDot (c : Char) : Bool :=
  c == '.' || c.toNat == 0x3002 || c.toNat == 0xFF0E || c.toNat == 0xFF61

/-- More characters than this are not looked at. -/
def longestName : Nat := 254

/-- Why a text of ASCII characters is no label and encodes none. -/
def asciiLabelFault? (label : List Char) : Option Fault :=
  let small := label.map Char.toLower
  if encodedMark.isPrefixOf small then
    let encoded := small.drop encodedMark.length
    if encoded.isEmpty then some .noContent
    else if encoded.getLast? = some '-' then some .hyphenAtEnd
    else
      match Punycode.decode encoded with
      | none => some .notEncoded
      | some label => labelFault? label
  else labelFault? small

/-- Is a label of ASCII characters one, or does it encode one? -/
def isAsciiLabel (label : List Char) : Bool := (asciiLabelFault? label).isNone

/-- A label in ASCII. -/
def asciiLabel? (label : List Char) : Option (List Char) :=
  let ascii? :=
    if label.all fun c => c.toNat < 0x80 then if isAsciiLabel label then some label else none
    else if isLabel label then some (encodedMark ++ Punycode.encode label)
    else none
  ascii?.filter (·.length ≤ longestLabel)

/-- The labels of a name, and whether it ends in a dot. -/
def splitName (name : List Char) : List (List Char) × Bool :=
  let labels := Text.splitBy isDot name
  if labels.getLast? = some [] then (labels.dropLast, true) else (labels, false)

/-- The name of a host in ASCII. It may end in a dot. -/
def asciiName? (name : List Char) : Option (List Char) :=
  if longestName < name.length then none
  else do
    let (labels, endsInDot) := splitName name
    let ascii ← labels.mapM asciiLabel?
    let dot := if endsInDot then ['.'] else []
    let whole := ['.'].intercalate ascii ++ dot
    if whole.length ≤ longestName - 1 + dot.length then some whole else none

/-- Why what the labels of a name in ASCII encode is no name. Only names whose first label is
encoded are looked at. -/
def readingFault? (name : List Char) : Option Fault :=
  if !encodedMark.isPrefixOf name then none
  else if longestName < name.length then some .longName
  else (splitName name).1.findSome? asciiLabelFault?

end Workbench.Hostname
