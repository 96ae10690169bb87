/-!
# Labels in ASCII

A label of any script is written in ASCII as its ASCII characters, a hyphen, and a number for each
of its other characters: how many places and code points are passed over since the one before, in
ascending order of code points. A number has a base that differs from digit to digit, so that its
last digit can be told, and the bases follow the size of the numbers before.
-/
namespace Workbench.Hostname.Punycode

/-! ## Numbers -/

/-- The value from which a digit, the one at a place, is not the last of its number. -/
def threshold (bias place : Nat) : Nat := min 26 (max 1 (36 * (place + 1) - bias))

theorem threshold_pos (bias place : Nat) : 0 < threshold bias place := by
  simp only [threshold]
  omega

theorem threshold_le (bias place : Nat) : threshold bias place ≤ 26 := Nat.min_le_left _ _

/-- The bias for a number that is thirty-five times smaller each time it is divided. -/
def biasFor (steps delta : Nat) : Nat :=
  if 455 < delta then biasFor (steps + 36) (delta / 35) else steps + 36 * delta / (delta + 38)
termination_by delta
decreasing_by exact Nat.div_lt_self (by omega) (by omega)

/-- The bias after a number. `count` characters are placed by then. -/
def nextBias (isFirst : Bool) (delta count : Nat) : Nat :=
  let scaled := if isFirst then delta / 700 else delta / 2
  biasFor 0 (scaled + scaled / count)

/-- A digit: the letters come before the numerals. -/
def digitChar (d : Nat) : Char := Char.ofNat (if d < 26 then 0x61 + d else 0x30 + (d - 26))

/-- The value of a digit. -/
def digit? (c : Char) : Option Nat :=
  let lower := c.toLower
  if 'a' ≤ lower && lower ≤ 'z' then some (lower.toNat - 0x61)
  else if c.isDigit then some (c.toNat - 0x30 + 26)
  else none

/-- The digits of a number from a place on, the least significant first. -/
def digits (bias place n : Nat) : List Char :=
  let t := threshold bias place
  if n < t then [digitChar n]
  else digitChar (t + (n - t) % (36 - t)) :: digits bias (place + 1) ((n - t) / (36 - t))
termination_by n
decreasing_by
  have := threshold_pos bias place
  exact Nat.lt_of_le_of_lt (Nat.div_le_self _ _) (by omega)

/-- The number that the digits from a place on stand for, and what follows them. -/
def number? (bias place weight sum : Nat) : List Char → Option (Nat × List Char)
  | [] => none
  | c :: cs =>
    match digit? c with
    | none => none
    | some d =>
      let t := threshold bias place
      if d < t then some (sum + d * weight, cs)
      else number? bias (place + 1) (weight * (36 - t)) (sum + d * weight) cs

/-! ## Writing -/

/-- What is counted while a label is written: the code point and the characters placed so far, the
places passed over since the last number, and the numbers, the latest first. -/
structure Count where
  next : Nat := 0x80
  placed : Nat
  passed : Nat := 0
  numbers : List Nat := []

/-- Come to a character on the way through a label for the code point `code`. -/
def Count.pass (code : Nat) (k : Count) (c : Char) : Count :=
  if c.toNat < code then { k with passed := k.passed + 1 }
  else if c.toNat = code then
    { k with placed := k.placed + 1, passed := 0, numbers := k.passed :: k.numbers }
  else k

/-- Go through a label for a code point. -/
def Count.place (label : List Char) (k : Count) (code : Nat) : Count :=
  let k := { k with passed := k.passed + (code - k.next) * (k.placed + 1) }
  let k := label.foldl (pass code) k
  { k with next := code + 1, passed := k.passed + 1 }

/-- Numbers as they are written. `count` characters are placed before the first one. -/
def writeNumbers (isFirst : Bool) (bias count : Nat) : List Nat → List Char
  | [] => []
  | n :: ns =>
    digits bias 0 n ++ writeNumbers false (nextBias isFirst n (count + 1)) (count + 1) ns

/-- A label in ASCII. -/
def encode (label : List Char) : List Char :=
  let ascii := label.filter fun c => c.toNat < 0x80
  let codes := ((label.map Char.toNat).filter (0x80 ≤ ·)).mergeSort.eraseDups
  let numbers := (codes.foldl (Count.place label) { placed := ascii.length }).numbers.reverse
  ascii ++ (if ascii.isEmpty then [] else ['-']) ++ writeNumbers true 72 ascii.length numbers

/-! ## Reading -/

/-- Put the characters that numbers stand for into a label. `code` and `place` are where the
number before ended. Each number has a digit, so `fuel` need not be more than the digits. -/
def insertAll (isFirst : Bool) (bias code place : Nat) (label : List Char) :
    Nat → List Char → Option (List Char)
  | _, [] => some label
  | 0, _ :: _ => none
  | fuel + 1, c :: cs =>
    match number? bias 0 1 0 (c :: cs) with
    | none => none
    | some (n, rest) =>
      let slots := label.length + 1
      let code := code + (place + n) / slots
      let place := (place + n) % slots
      if code.isValidChar then
        insertAll false (nextBias isFirst n slots) code (place + 1)
          (label.take place ++ Char.ofNat code :: label.drop place) fuel rest
      else none

/-- The label that is written in ASCII. -/
def decode (text : List Char) : Option (List Char) :=
  let numbers := (text.reverse.takeWhile (· != '-')).reverse
  let ascii := (text.take (text.length - numbers.length)).dropLast
  insertAll true 72 0x80 0 ascii numbers.length numbers

end Workbench.Hostname.Punycode
