import Workbench.Number.Binary64
import Workbench.Text.Case

/-!
# Numbers written in text

Integers and floating-point numbers as people write them. There are two readers of integers.
`readWhole?` takes whole numbers in the digits of any script. `readLenient` is for loosely typed
records: it takes ASCII digits only, but also leading zeros and a fraction of zeros.

Each script that writes numbers by tens has its ten digits side by side, so the zeros alone
determine them all.
-/
namespace Workbench.Number

/-! ## Digits -/

/-- The code points of the digit zero, one for each run of ten digits. -/
def zeroDigits : List Nat :=
  [0x30, 0x660, 0x6F0, 0x7C0, 0x966, 0x9E6, 0xA66, 0xAE6, 0xB66, 0xBE6, 0xC66, 0xCE6, 0xD66, 0xDE6,
    0xE50, 0xED0, 0xF20, 0x1040, 0x1090, 0x17E0, 0x1810, 0x1946, 0x19D0, 0x1A80, 0x1A90, 0x1B50,
    0x1BB0, 0x1C40, 0x1C50, 0xA620, 0xA8D0, 0xA900, 0xA9D0, 0xA9F0, 0xAA50, 0xABF0, 0xFF10,
    0x104A0, 0x10D30, 0x11066, 0x110F0, 0x11136, 0x111D0, 0x112F0, 0x11450, 0x114D0, 0x11650,
    0x116C0, 0x11730, 0x118E0, 0x11950, 0x11C50, 0x11D50, 0x11DA0, 0x16A60, 0x16AC0, 0x16B50,
    0x1D7CE, 0x1D7D8, 0x1D7E2, 0x1D7EC, 0x1D7F6, 0x1E140, 0x1E2F0, 0x1E950, 0x1FBF0]

/-- The value of a decimal digit of any script. -/
def decimalValue? (c : Char) : Option Nat :=
  (zeroDigits.find? fun z => z ≤ c.toNat && c.toNat < z + 10).map (c.toNat - ·)

/-- The value of a digit in a base up to sixteen, the letters standing for ten and more. -/
def digitValue? (base : Nat) (c : Char) : Option Nat :=
  let lower := c.toLower
  let value? := if 'a' ≤ lower && lower ≤ 'f' then some (lower.toNat - 'a'.toNat + 10)
    else decimalValue? c
  value?.filter (· < base)

/-- The number written by digits, the most significant first. -/
def ofDigits (base : Nat) (ds : List Nat) : Nat := ds.foldl (fun n d => n * base + d) 0

/-! ## Numbers -/

/-- White space that may surround a number: as blank characters, without the information
separators. -/
def isMargin (c : Char) : Bool :=
  Text.isBlankChar c && !(0x1C ≤ c.toNat && c.toNat ≤ 0x1F)

/-- The sign at the front, if any, and what follows it. -/
def splitSign : List Char → Bool × List Char
  | '-' :: rest => (true, rest)
  | '+' :: rest => (false, rest)
  | cs => (false, cs)

/-- The number written by ASCII digits. -/
def natOf (ds : List Char) : Nat := ds.foldl (fun n d => n * 10 + (d.toNat - '0'.toNat)) 0

/-- Digits, at least one and nothing else. -/
def isDigits (cs : List Char) : Bool := !cs.isEmpty && cs.all Char.isDigit

/-- A natural number with its sign. -/
def signed (negative : Bool) (n : Nat) : Int := if negative then -(n : Int) else n

/-- Longer integers are not read. -/
def longestInt : Nat := 4300

/-! ## Whole numbers -/

/-- The values of digits, at least one, with single underscores between them. -/
def groupedDigits? (value? : Char → Option Nat) : List Char → Option (List Nat)
  | [] => none
  | [c] => (value? c).map fun d => [d]
  | c :: '_' :: rest => do some ((← value? c) :: (← groupedDigits? value? rest))
  | c :: rest => do some ((← value? c) :: (← groupedDigits? value? rest))

/-- The letter that announces a base after a zero. -/
def baseLetter? (base : Nat) : Option Char :=
  if base = 2 then some 'b' else if base = 8 then some 'o' else if base = 16 then some 'x' else none

/-- Digits without the announcement of their base. -/
def withoutBase (base : Nat) (cs : List Char) : List Char :=
  match cs with
  | '0' :: letter :: rest =>
    if baseLetter? base = some letter.toLower then
      match rest with
      | '_' :: ds => ds
      | ds => ds
    else cs
  | _ => cs

/-- The whole number in a base that a text holds, with white space around it and a sign. Only the
length of decimal numbers is limited. -/
def readWholeIn? (base : Nat) (s : String) : Option Int := do
  let (negative, unsigned) := splitSign (Text.trim isMargin s.toList)
  let ds ← groupedDigits? (digitValue? base) (withoutBase base unsigned)
  if base = 10 && longestInt < ds.length then none
  else some (signed negative (ofDigits base ds))

/-- The decimal whole number that a text holds. -/
def readWhole? (s : String) : Option Int := readWholeIn? 10 s

/-! ## Integers in records -/

/-- Why a text is no integer. -/
inductive IntegerFault where
  | malformed
  | tooLong
  deriving DecidableEq, Repr

/-- The integer that is written without anything superfluous. -/
def readStrict (cs : List Char) : Except IntegerFault Int :=
  let (negative, unsigned) := match cs with
    | '-' :: rest => (true, rest)
    | _ => (false, cs)
  let ds := unsigned.takeWhile Char.isDigit
  if ds.head? = some '0' then
    if unsigned = ['0'] then .ok 0 else .error .malformed
  else if longestInt < ds.length + (if negative then 1 else 0) then .error .tooLong
  else if ds.isEmpty || ds.length ≠ unsigned.length then .error .malformed
  else .ok (signed negative (natOf ds))

/-- The characters without underscores, if there are any and each stands alone between two
others. -/
def withoutUnderscores? (cs : List Char) : Option (List Char) :=
  let rec doubled : List Char → Bool
    | '_' :: '_' :: _ => true
    | _ :: rest => doubled rest
    | [] => false
  if cs.head? = some '_' || cs.getLast? = some '_' || doubled cs || !cs.contains '_' then none
  else some (cs.filter (· != '_'))

/-- Can an integer start with this character, leading zeros apart? -/
def startsInteger (c : Char) : Bool := ('1' ≤ c && c ≤ '9') || c == '-'

/-- An integer without its leading zeros and the underscores among them. The last zero stays when
nothing follows, or a point. -/
def withoutLeadingZeros? : List Char → Option (List Char)
  | [] => none
  | c :: rest =>
    if c == '0' then afterZero c rest else if startsInteger c then some (c :: rest) else none
where
  /-- The same behind a zero, `last` being the character in front. -/
  afterZero (last : Char) : List Char → Option (List Char)
    | [] => some [last]
    | c :: rest =>
      if c == '0' || c == '_' then afterZero c rest
      else if startsInteger c then some (c :: rest)
      else if c == '.' then some (last :: c :: rest)
      else none

/-- A fraction of zeros at the end is no part of an integer. -/
def withoutZeroFraction (cs : List Char) : List Char :=
  let whole := cs.takeWhile (· != '.')
  match cs.drop whole.length with
  | '.' :: zeros => if !zeros.isEmpty && zeros.all (· == '0') then whole else cs
  | _ => cs

/-- An integer without anything superfluous. -/
def tidied? (cs : List Char) : Option (List Char) := do
  let cs := Text.trim isMargin cs
  let cs ← match cs with
    | '+' :: '-' :: _ => none
    | '+' :: rest => some rest
    | _ => some cs
  let cs := withoutZeroFraction (← withoutLeadingZeros? cs)
  some ((withoutUnderscores? cs).getD cs)

/-- The integer that a text of a record holds. The length counts only for a text that has nothing
superfluous; otherwise an integer that is too long is no integer. -/
def readLenient (s : String) : Except IntegerFault Int :=
  match readStrict s.toList with
  | .ok i => .ok i
  | .error .tooLong => .error .tooLong
  | .error .malformed =>
    match (tidied? s.toList).map readStrict with
    | some (.ok i) => .ok i
    | _ => .error .malformed

/-! ## Floating-point numbers -/

/-- An unsigned decimal: digits around at most one point, at least one of them, and perhaps an
exponent. -/
def unsignedFloat? (negative : Bool) (cs : List Char) : Option Binary64 :=
  let whole := cs.takeWhile Char.isDigit
  let rest := cs.dropWhile Char.isDigit
  let (fraction, rest) : List Char × List Char := match rest with
    | '.' :: r => (r.takeWhile Char.isDigit, r.dropWhile Char.isDigit)
    | r => ([], r)
  if whole.isEmpty && fraction.isEmpty then none
  else
    let value (exponent : Int) : Binary64 :=
      let digits := (whole ++ fraction).dropWhile (· == '0')
      Binary64.ofDecimal negative (natOf digits) digits.length (exponent - fraction.length)
    match rest with
    | [] => some (value 0)
    | c :: r =>
      let (down, ds) := splitSign r
      if (c == 'e' || c == 'E') && isDigits ds then
        let n : Int := natOf ds
        some (value (if down then -n else n))
      else none

/-- A signed decimal, or one of the words for infinity and not-a-number in any case. -/
def signedFloat? (cs : List Char) : Option Binary64 :=
  let (negative, unsigned) := splitSign cs
  let word := String.ofList unsigned
  if Text.sameAsciiCase word "inf" || Text.sameAsciiCase word "infinity" then
    some (.infinite negative)
  else if Text.sameAsciiCase word "nan" then some .nan
  else unsignedFloat? negative unsigned

/-- A decimal digit of any script as an ASCII digit; other characters as they are. -/
def asciiDigit (c : Char) : Char :=
  match decimalValue? c with
  | some n => Nat.digitChar n
  | none => c

/-- The floating-point number in the digits of any script that a text holds, with white space
around it. -/
def readDecimal? (cs : List Char) : Option Binary64 :=
  signedFloat? ((Text.trim isMargin cs).map asciiDigit)

/-- The floating-point number written in a text of a record: there may be white space around it, or
else single underscores inside. -/
def readFloat? (s : String) : Option Binary64 :=
  match signedFloat? (Text.trim isMargin s.toList) with
  | some x => some x
  | none => (withoutUnderscores? s.toList).bind signedFloat?

end Workbench.Number
