import GpuMetrics.Decimal.Shortest

/-!
# How a number is written

A number is written by its shortest digits. It stands in positional form, with a fraction even if
that is zero, while its leading digit counts a power of ten from `10 ^ -4` to `10 ^ 15`; beyond
that it has an exponent with a sign and two digits or more.
-/

namespace GpuMetrics.Decimal

/-- The choices a notation for numbers makes. -/
structure Layout where
  /-- The least leading exponent that is written positionally. -/
  positionalFrom : Int
  /-- The greatest leading exponent that is written positionally. -/
  positionalTo : Int
  /-- The least number of digits of an exponent. -/
  exponentDigits : Nat
  /-- The text of infinity. -/
  infinity : String
  /-- The text of what is no number. -/
  notANumber : String

/-- The notation of readings and settings. -/
def Layout.plain : Layout :=
  { positionalFrom := -4, positionalTo := 15, exponentDigits := 2, infinity := "inf",
    notANumber := "nan" }

/-- A finite binary number as sign, mantissa and exponent; nothing for infinity and what is no
number. -/
def parts? (x : Float) : Option (Bool × Nat × Int) :=
  let bits : Nat := x.toBits.toNat
  let field : Nat := bits / leadingBit % 2048
  let fraction : Nat := bits % leadingBit
  let negative := bits / (leadingBit * 2048) = 1
  if field = 2047 then none
  else if field = 0 then some (negative, fraction, -1074)
  else some (negative, fraction + leadingBit, (field : Int) - 1075)

/-- The sign in front of a number. -/
def signText (negative : Bool) : List Char := if negative then ['-'] else []

/-- A decimal number in positional form, with at least one digit on each side of the point. -/
def Number.positional (n : Number) : List Char :=
  let digits := Nat.toDigits 10 n.digits
  match n.exponent with
  | .ofNat e => digits ++ List.replicate e '0' ++ ['.', '0']
  | .negSucc e =>
    let places := e + 1
    let padded := List.replicate (places + 1 - digits.length) '0' ++ digits
    padded.take (padded.length - places) ++ '.' :: padded.drop (padded.length - places)

/-- A decimal number with an exponent. -/
def Number.scientific (layout : Layout) (n : Number) (leading : Int) : List Char :=
  let digits := Nat.toDigits 10 n.digits
  let power := Nat.toDigits 10 leading.natAbs
  let body := match digits with
    | [] => []
    | [d] => [d]
    | d :: r => d :: '.' :: r
  body ++ 'e' :: (if leading < 0 then '-' else '+')
    :: List.replicate (layout.exponentDigits - power.length) '0' ++ power

/-- A positive decimal number as the layout writes it. -/
def Number.text (layout : Layout) (n : Number) : List Char :=
  let leading := n.exponent + (digitCount n.digits : Int) - 1
  if layout.positionalFrom ≤ leading && leading ≤ layout.positionalTo then n.positional
  else n.scientific layout leading

/-- A number as the layout writes it. -/
def Layout.text (layout : Layout) (x : Float) : String :=
  match parts? x with
  | none =>
    if x.isNaN then layout.notANumber
    else if x < 0 then "-" ++ layout.infinity
    else layout.infinity
  | some (negative, mantissa, exponent) =>
    let body := if mantissa = 0 then ['0', '.', '0'] else (shortest mantissa exponent).text layout
    String.ofList (signText negative ++ body)

/-- A number as readings and settings write it. -/
def text (x : Float) : String := Layout.plain.text x

end GpuMetrics.Decimal
