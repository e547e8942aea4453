/-!
# The shortest decimal that reads back

A finite binary number stands for `mantissa * 2 ^ exponent`, and every decimal within half a step of
it reads back as that number; the ends of this interval read back exactly if the mantissa is even.
`shortest` gives the decimal in the interval with the fewest digits, and among those the nearest.
The search is exact: all comparisons are between natural numbers.
-/

namespace GpuMetrics.Decimal

/-- A positive rational number as numerator and denominator. -/
structure Ratio where
  num : Nat
  den : Nat

/-- A number times a power of two. -/
def Ratio.scaled (n : Nat) (exponent : Int) : Ratio :=
  match exponent with
  | .ofNat e => ⟨n * Nat.pow 2 e, 1⟩
  | .negSucc e => ⟨n, Nat.pow 2 (e + 1)⟩

/-- A number times a power of ten. -/
def Ratio.ofDecimal (n : Nat) (exponent : Int) : Ratio :=
  match exponent with
  | .ofNat e => ⟨n * Nat.pow 10 e, 1⟩
  | .negSucc e => ⟨n, Nat.pow 10 (e + 1)⟩

/-- Whether the first ratio is at most the second. -/
def Ratio.atMost (a b : Ratio) : Bool := a.num * b.den ≤ b.num * a.den

/-- Whether the first ratio is less than the second. -/
def Ratio.below (a b : Ratio) : Bool := a.num * b.den < b.num * a.den

/-- The number of decimal digits of a number; zero has none. -/
def digitCount (n : Nat) : Nat := if n = 0 then 0 else (Nat.toDigits 10 n).length

/-- The exponent of the leading decimal digit of a positive ratio. -/
def Ratio.leadingExponent (r : Ratio) : Int :=
  if r.den ≤ r.num then (digitCount (r.num / r.den) : Int) - 1
  else -(digitCount ((r.den + r.num - 1) / r.num - 1) : Int)

/-- The numbers that read back as one binary number: those between `low` and `high`, the two ends
included if `closed`. -/
structure Interval where
  low : Ratio
  value : Ratio
  high : Ratio
  closed : Bool

/-- Whether a ratio lies in the interval. -/
def Interval.has (i : Interval) (r : Ratio) : Bool :=
  if i.closed then i.low.atMost r && r.atMost i.high else i.low.below r && r.below i.high

/-- The least mantissa of the numbers that are not among the smallest. -/
def leadingBit : Nat := 0x10000000000000

/-- The interval of a binary number. A step down from a power of two is half as long, unless the
number is among the smallest. -/
def Interval.ofBinary (mantissa : Nat) (exponent : Int) : Interval :=
  let down := if mantissa = leadingBit && exponent > -1074 then 1 else 2
  { low := .scaled (4 * mantissa - down) (exponent - 2)
    value := .scaled (4 * mantissa) (exponent - 2)
    high := .scaled (4 * mantissa + 2) (exponent - 2)
    closed := mantissa % 2 = 0 }

/-- A decimal number: digits, and the power of ten that its last digit counts. -/
structure Number where
  digits : Nat
  exponent : Int
  deriving DecidableEq, Repr

/-- The number of multiples of `10 ^ exponent` below or at a ratio. -/
def Ratio.wholeSteps (r : Ratio) (exponent : Int) : Nat :=
  match exponent with
  | .ofNat e => r.num / (r.den * Nat.pow 10 e)
  | .negSucc e => r.num * Nat.pow 10 (e + 1) / r.den

/-- Whether the upper of two neighbours on a grid is nearer to the value than the lower one; on a
tie the even one is taken. -/
def upperIsNearer (value : Ratio) (lower : Nat) (exponent : Int) : Bool :=
  let middle := Ratio.ofDecimal (2 * lower + 1) exponent
  let twice : Ratio := ⟨2 * value.num, value.den⟩
  middle.below twice || (middle.atMost twice && lower % 2 = 1)

/-- The best point of the interval on the grid of multiples of `10 ^ exponent`. If the grid has a
point in the interval, one of the two neighbours of the value is one. -/
def Interval.pointOn? (i : Interval) (exponent : Int) : Option Number :=
  let lower := i.value.wholeSteps exponent
  let lowerIn := lower ≠ 0 && i.has (.ofDecimal lower exponent)
  let upperIn := i.has (.ofDecimal (lower + 1) exponent)
  if lowerIn && upperIn then
    some ⟨if upperIsNearer i.value lower exponent then lower + 1 else lower, exponent⟩
  else if lowerIn then some ⟨lower, exponent⟩
  else if upperIn then some ⟨lower + 1, exponent⟩
  else none

/-- The first grid, from coarse to fine, with a point in the interval. -/
def Interval.firstPoint (i : Interval) (leading : Int) : Nat → Nat → Number
  | 0, count => ⟨i.value.wholeSteps (leading - count), leading - count⟩
  | more + 1, count =>
    match i.pointOn? (leading - count) with
    | some n => n
    | none => i.firstPoint leading more (count + 1)

/-- A decimal number without zeros at its end. -/
def Number.reducedBy : Nat → Number → Number
  | 0, n => n
  | fuel + 1, n =>
    if n.digits ≠ 0 && n.digits % 10 = 0 then
      Number.reducedBy fuel ⟨n.digits / 10, n.exponent + 1⟩
    else n

/-- The decimal with the fewest digits that reads back as `mantissa * 2 ^ exponent`. Seventeen
digits are always enough. -/
def shortest (mantissa : Nat) (exponent : Int) : Number :=
  let i := Interval.ofBinary mantissa exponent
  (i.firstPoint i.value.leadingExponent 17 0).reducedBy 20

end GpuMetrics.Decimal
