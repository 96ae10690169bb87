import Workbench.Hostname.Fault
import Workbench.Text.Mark

/-!
# The direction of a label

Some scripts run from right to left. A label that holds characters of such a script, or their
digits, has to run in one direction throughout, so that it can be told apart from its neighbours.
-/
namespace Workbench.Hostname

/-- What a character does to the direction of a text. -/
inductive Direction where
  | leftToRight
  | rightToLeft
  /-- The digits of the Arabic script. -/
  | arabicDigit
  | digit
  /-- Characters that take the direction of their surroundings. -/
  | neutral
  /-- Marks, which take the direction of the character before them. -/
  | mark
  deriving DecidableEq, Repr

/-- Ranges of characters that run from right to left; the marks inside do not count. -/
def rightToLeftRanges : Array (Nat × Nat) := Text.rangeTable
  "5d0-5f4 620-64a 66e-66f 671-6d5 6e5-6e6 6ee-6ef 6fa-710 712-72f 74d-7a5 7b1 7c0-7ea 7f4-7f5
800-815 81a 824 828 840-858 860-88e 8a0-8c9 fe73 10800-10a00 10a10-10a35 10a60-10ae4 10b00-10cf2
10d00-10d23 10e80-10ea9 10eb0-10f27 10f30-10f45 10f70-10f81 10fb0-10ff6 1e800-1e8c4 1e922-1e943
1e94b-1e959"

/-- Ranges of neutral characters. -/
def neutralRanges : Array (Nat × Nat) := Text.rangeTable
  "2d b7 2b9-2ba 2c6-2cf 2ec 375 200c-200d 2e2f 30fb a67f a717-a71f a788"

/-- Ranges of the digits of the Arabic script. -/
def arabicDigitRanges : Array (Nat × Nat) := Text.rangeTable
  "660-669 10d30-10d39"

/-- Ranges of other digits. -/
def digitRanges : Array (Nat × Nat) := Text.rangeTable
  "30-39 6f0-6f9"

/-- What a character does to the direction of a text. -/
def directionOf (c : Char) : Direction :=
  let n := c.toNat
  if Text.isNonspacing c then .mark
  else if Text.inSome neutralRanges n then .neutral
  else if Text.inSome digitRanges n then .digit
  else if Text.inSome arabicDigitRanges n then .arabicDigit
  else if Text.inSome rightToLeftRanges n then .rightToLeft
  else .leftToRight

/-- The last direction that is not a mark's. -/
def lastDirection (ds : List Direction) : Option Direction :=
  (ds.reverse.dropWhile (· == .mark)).head?

def Direction.isDigit (d : Direction) : Bool := d = .digit || d = .arabicDigit

/-- Does the direction make a label one that has to run in one direction throughout? -/
def Direction.turns (d : Direction) : Bool := d = .rightToLeft || d = .arabicDigit

/-- What is wrong inside a label that starts from right to left, from a position on. All digits are
of the sort of those before. -/
def rightToLeftFault? (position : Nat) (digits : Option Direction) :
    List Direction → Option Fault
  | [] => none
  | d :: ds =>
    if d = .leftToRight then some (.wrongDirection position true)
    else if !d.isDigit then rightToLeftFault? (position + 1) digits ds
    else if digits.all (· = d) then rightToLeftFault? (position + 1) (some d) ds
    else some .mixedDigits

/-- What is wrong with the direction of a label whose characters are known. One without characters
from right to left has none to keep to. -/
def runFault? (label : List Char) : Option Fault :=
  let ds := label.map directionOf
  if !ds.any Direction.turns then none
  else
    match ds.head? with
    | some .leftToRight => some (.wrongDirection (ds.findIdx Direction.turns + 1) false)
    | some .rightToLeft =>
      (rightToLeftFault? 1 none ds).or
        (if lastDirection ds = some .neutral then some .undirectedEnd else none)
    | _ => some (.undirectedStart label)

end Workbench.Hostname
