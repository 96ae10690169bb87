/-!
# Double-precision numbers

The 64-bit binary floating-point numbers, kept exactly as sign, mantissa and exponent. A finite
number is `mantissa * 2 ^ exponent` in its one canonical form, so equal numbers are equal terms
(the two zeros apart). Every operation is exact natural-number arithmetic followed by one
rounding to the nearest number, ties to the even mantissa.
-/
namespace Workbench.Number

/-- The powers of two. -/
abbrev pow2 (n : Nat) : Nat := Nat.pow 2 n

/-- The powers of ten. -/
abbrev pow10 (n : Nat) : Nat := Nat.pow 10 n

/-- The mantissa has 53 bits, or fewer at the least exponent. -/
def Canonical (mantissa : Nat) (exponent : Int) : Prop :=
  mantissa < pow2 53 ∧ -1074 ≤ exponent ∧ exponent ≤ 971 ∧ (pow2 52 ≤ mantissa ∨ exponent = -1074)

instance (mantissa : Nat) (exponent : Int) : Decidable (Canonical mantissa exponent) :=
  inferInstanceAs (Decidable (_ ∧ _ ∧ _ ∧ _))

/-- A double-precision number. -/
inductive Binary64 where
  | nan
  | infinite (negative : Bool)
  | finite (negative : Bool) (mantissa : Nat) (exponent : Int)
      (canonical : Canonical mantissa exponent)
  deriving DecidableEq, Repr

namespace Binary64

instance : Inhabited Binary64 := ⟨nan⟩

/-- Zero of either sign. -/
def zero (negative : Bool) : Binary64 := finite negative 0 (-1074) (by decide)

/-- The number with this mantissa and exponent, or infinity when the exponent is too large. -/
def ofParts (negative : Bool) (mantissa : Nat) (exponent : Int) : Binary64 :=
  if h : Canonical mantissa exponent then finite negative mantissa exponent h
  else infinite negative

/-- `num / den` rounded to the nearest integer, a half to the even neighbour. -/
def roundDiv (num den : Nat) : Nat :=
  let q := num / den
  let r := num % den
  if 2 * r < den then q
  else if den < 2 * r then q + 1
  else if q % 2 = 0 then q else q + 1

/-- The quotient `num / den` scaled down by `2 ^ exponent`, as a fraction. -/
def scaled (num den : Nat) (exponent : Int) : Nat × Nat :=
  if 0 ≤ exponent then (num, den * pow2 exponent.toNat)
  else (num * pow2 (-exponent).toNat, den)

/-- The exponent at which `num / den` has a mantissa of 53 bits before rounding, but not below
the least exponent. -/
def exponentOf (num den : Nat) : Int :=
  let low : Int := max (-1074) ((num.log2 : Int) - (den.log2 : Int) - 53)
  let (n, d) := scaled num den low
  if n / d < pow2 53 then low else low + 1

/-- The number nearest to `num / den`. -/
def ofRatio (negative : Bool) (num den : Nat) : Binary64 :=
  if num = 0 then zero negative
  else
    let e := exponentOf num den
    let (n, d) := scaled num den e
    let m := roundDiv n d
    if m = pow2 53 then ofParts negative (pow2 52) (e + 1) else ofParts negative m e

/-- The number nearest to an integer. -/
def ofInt (i : Int) : Binary64 := ofRatio (decide (i < 0)) i.natAbs 1

/-- The number nearest to `digits * 10 ^ exponent`; `length` is the count of digits, by which
values far outside the range are told without computing them. -/
def ofDecimal (negative : Bool) (digits : Nat) (length : Nat) (exponent : Int) : Binary64 :=
  if digits = 0 then zero negative
  else if 400 < exponent + length then infinite negative
  else if exponent + length < -400 then zero negative
  else if 0 ≤ exponent then ofRatio negative (digits * pow10 exponent.toNat) 1
  else ofRatio negative digits (pow10 (-exponent).toNat)

/-- Is the number below zero? NaN and the zeros are not. -/
def isNegative : Binary64 → Bool
  | nan => false
  | infinite s => s
  | finite s m _ _ => s && m != 0

/-- Is the number above zero? -/
def isPositive : Binary64 → Bool
  | nan => false
  | infinite s => !s
  | finite s m _ _ => !s && m != 0

def isFinite : Binary64 → Bool
  | finite .. => true
  | _ => false

/-- The size of a finite number as a fraction. -/
def magnitude (mantissa : Nat) (exponent : Int) : Nat × Nat :=
  if 0 ≤ exponent then (mantissa * pow2 exponent.toNat, 1)
  else (mantissa, pow2 (-exponent).toNat)

/-- The integer part, toward zero, of a finite number. -/
def truncate? : Binary64 → Option Int
  | finite s m e _ =>
    let (n, d) := magnitude m e
    some (if s then -((n / d : Nat) : Int) else ((n / d : Nat) : Int))
  | _ => none

/-- The integer that the number is, if it is one. -/
def toInt? : Binary64 → Option Int
  | finite s m e _ =>
    let (n, d) := magnitude m e
    if n % d = 0 then some (if s then -((n / d : Nat) : Int) else ((n / d : Nat) : Int)) else none
  | _ => none

/-- The number with the other sign. -/
def neg : Binary64 → Binary64
  | nan => nan
  | infinite s => infinite (!s)
  | finite s m e h => finite (!s) m e h

/-- A mantissa with its sign. -/
def signedMantissa (negative : Bool) (mantissa : Nat) : Int :=
  if negative then -(mantissa : Int) else mantissa

/-- The number nearest to `units * 2 ^ exponent`; zero has the given sign. -/
def ofUnits (zeroSign : Bool) (units : Int) (exponent : Int) : Binary64 :=
  if units = 0 then zero zeroSign
  else
    let (n, d) := magnitude units.natAbs exponent
    ofRatio (decide (units < 0)) n d

/-- The sum, rounded. -/
def add (x y : Binary64) : Binary64 :=
  match x, y with
  | finite s m e _, finite t k f _ =>
    let low := min e f
    let units := signedMantissa s m * pow2 (e - low).toNat + signedMantissa t k * pow2 (f - low).toNat
    ofUnits (s && t) units low
  | infinite s, infinite t => if s = t then infinite s else nan
  | nan, _ | _, nan => nan
  | infinite s, _ | _, infinite s => infinite s

/-- The product, rounded. -/
def mul (x y : Binary64) : Binary64 :=
  match x, y with
  | finite s m e _, finite t k f _ =>
    ofUnits (s != t) (signedMantissa (s != t) (m * k)) (e + f)
  | nan, _ | _, nan => nan
  | infinite s, infinite t => infinite (s != t)
  | infinite s, finite t m _ _ | finite t m _ _, infinite s =>
    if m = 0 then nan else infinite (s != t)

/-- A finite number divided by a positive integer. -/
def divNat (x : Binary64) (k : Nat) : Binary64 :=
  match x with
  | finite s m e _ =>
    let (n, d) := magnitude m e
    ofRatio s n (d * k)
  | other => other

end Binary64

end Workbench.Number
