import Workbench.Number.Binary64

/-!
# Decimal text of double-precision numbers

A number is written with the fewest digits that read back as the same number and, of those, the
digits nearest to it. Main definitions: `shortest`, the digits and the power of ten, and
`Layout`, the choices that turn them into text.
-/
namespace Workbench.Number

/-- Decimal digits of a natural number, most significant first. -/
def digitsOf (n : Nat) : List Char := Nat.toDigits 10 n

/-- `digits * 10 ^ exponent`, the last digit not being redundant. -/
structure DecimalForm where
  digits : Nat
  exponent : Int
  deriving DecidableEq, Repr

/-- The value of a decimal form, rounded to a double. -/
def DecimalForm.toBinary64 (negative : Bool) (d : DecimalForm) : Binary64 :=
  Binary64.ofDecimal negative d.digits (digitsOf d.digits).length d.exponent

/-- Is the fraction at least `10 ^ k`? -/
def atLeastPowerOfTen (num den : Nat) (k : Int) : Bool :=
  if 0 ≤ k then den * pow10 k.toNat ≤ num else den ≤ num * pow10 (-k).toNat

/-- The power of ten of the first digit of a positive fraction, searched upward from `k`. -/
def leadingPower (num den : Nat) : Nat → Int → Int
  | 0, k => k
  | fuel + 1, k =>
    if atLeastPowerOfTen num den (k + 1) then leadingPower num den fuel (k + 1) else k

/-- A start for `leadingPower` at or a little below the power of the first digit: a binary
logarithm times 0.30103, which exceeds the decimal logarithm by less than one in this range. -/
def powerEstimate (num den : Nat) : Int :=
  (((num.log2 : Int) - (den.log2 : Int) - 1) * 30103).fdiv 100000 - 1

/-- The digits at a grid of `10 ^ exponent` that read back as `x`: of the two neighbours of the
fraction on that grid, the nearer one that does, an exact tie going to the even digit. -/
def onGrid? (x : Binary64) (negative : Bool) (num den : Nat) (exponent : Int) :
    Option DecimalForm :=
  let (n, d) := if 0 ≤ exponent then (num, den * pow10 exponent.toNat)
    else (num * pow10 (-exponent).toNat, den)
  let low : DecimalForm := ⟨n / d, exponent⟩
  let high : DecimalForm := ⟨n / d + 1, exponent⟩
  let lowFits := decide (low.toBinary64 negative = x)
  let highFits := decide (high.toBinary64 negative = x)
  let lowNearer := 2 * (n % d) < d || (2 * (n % d) == d && (n / d) % 2 == 0)
  if lowFits && (lowNearer || !highFits) then some low
  else if highFits then some high
  else none

/-- The first grid, from coarse to fine, that has a point reading back as `x`. -/
def searchGrids (x : Binary64) (negative : Bool) (num den : Nat) :
    Nat → Int → Option DecimalForm
  | 0, _ => none
  | fuel + 1, exponent =>
    match onGrid? x negative num den exponent with
    | some d => some d
    | none => searchGrids x negative num den fuel (exponent - 1)

/-- The fewest digits that read back as the finite number `± mantissa * 2 ^ exponent`. Seventeen
always suffice; the exact integer ratio is a last resort that is never taken. -/
def shortest (x : Binary64) (negative : Bool) (mantissa : Nat) (exponent : Int) : DecimalForm :=
  if mantissa = 0 then ⟨0, 0⟩
  else
    let (num, den) := Binary64.magnitude mantissa exponent
    let k := leadingPower num den 8 (powerEstimate num den)
    (searchGrids x negative num den 20 k).getD ⟨num / den, 0⟩

/-- How digits become text. -/
structure Layout where
  /-- Numbers whose first digit has a power of ten in this range are written positionally. -/
  least : Int
  most : Int
  /-- Least number of digits of the exponent. -/
  exponentWidth : Nat
  nan : String
  infinity : String
  negativeInfinity : String

/-- Digits with trailing zeros moved into the exponent. -/
def stripZeros : Nat → Nat → Int → Nat × Int
  | 0, digits, e => (digits, e)
  | fuel + 1, digits, e =>
    if digits ≠ 0 && digits % 10 = 0 then stripZeros fuel (digits / 10) (e + 1) else (digits, e)

/-- A list brought to a least length by zeros in front. -/
def padZeros (width : Nat) (cs : List Char) : List Char :=
  List.replicate (width - cs.length) '0' ++ cs

/-- The unsigned text of `digits * 10 ^ exponent` under a layout. A positional number always has
a fraction; the exponent form has a point only between digits. -/
def Layout.unsigned (l : Layout) (digits : Nat) (exponent : Int) : List Char :=
  let (digits, exponent) := stripZeros 20 digits exponent
  let ds := digitsOf digits
  let power : Int := if digits = 0 then 0 else exponent + ds.length - 1
  if l.least ≤ power && power ≤ l.most then
    if power < 0 then
      ['0', '.'] ++ List.replicate (-power - 1).toNat '0' ++ ds
    else
      let whole := power.toNat + 1
      let front := ds.take whole ++ List.replicate (whole - ds.length) '0'
      let back := ds.drop whole
      front ++ ['.'] ++ (if back.isEmpty then ['0'] else back)
  else
    let sign := if power < 0 then '-' else '+'
    let point := if ds.length ≤ 1 then ds else ds.take 1 ++ ['.'] ++ ds.drop 1
    point ++ ['e', sign] ++ padZeros l.exponentWidth (digitsOf power.natAbs)

/-- The text of a number under a layout. -/
def Layout.text (l : Layout) (x : Binary64) : String :=
  match x with
  | .nan => l.nan
  | .infinite s => if s then l.negativeInfinity else l.infinity
  | .finite s m e _ =>
    let d := shortest x s m e
    String.ofList ((if s then ['-'] else []) ++ l.unsigned d.digits d.exponent)

end Workbench.Number
