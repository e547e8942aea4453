import GpuMetrics.Decimal.Shortest
import GpuMetrics.Text.Blank
import GpuMetrics.Text.Digit

/-!
# Reading numbers

A numeral is an optional sign, digits with at most one point among them or at their ends, and an
optional exponent. Its value is the binary number nearest to the decimal it writes, the even one on
a tie. Two readers differ in the digits and underscores they take: `exactNumber?` is for the command
line, `laxNumber?` for settings.
-/

namespace GpuMetrics.Decimal

/-- Infinity. -/
def infinity : Float := Float.ofBits 0x7FF0000000000000

/-- What is no number. -/
def notANumber : Float := Float.ofBits 0x7FF8000000000000

/-- The binary number nearest to a decimal. Decimals far beyond the range of binary numbers are
decided by their size alone. -/
def Number.toFloat (n : Number) : Float :=
  let size := n.exponent + (digitCount n.digits : Int)
  if n.digits = 0 then 0
  else if size > 310 then infinity
  else if size < -330 then 0
  else match n.exponent with
    | .ofNat e => Float.ofScientific n.digits false e
    | .negSucc e => Float.ofScientific n.digits true (e + 1)

/-- A number with the sign of a numeral in front of it. -/
def signed (negative : Bool) (x : Float) : Float := if negative then -x else x

/-- The binary number nearest to an integer. -/
def ofInt (i : Int) : Float := signed (i < 0) (Number.toFloat ⟨i.natAbs, 0⟩)

/-- The decimal that digits before and after a point write. -/
def Number.ofDigits (whole fraction : List Char) : Number :=
  ⟨Text.digitsValue (whole ++ fraction), -(fraction.length : Int)⟩

/-- A sign at the front of a text, and the rest of it. -/
def sign : List Char → Bool × List Char
  | '-' :: r => (true, r)
  | '+' :: r => (false, r)
  | r => (false, r)

/-- The exponent at the end of a numeral. A text without one has the exponent zero. -/
def exponent? (isDigit : Char → Bool) : List Char → Option Int
  | [] => some 0
  | c :: r =>
    if c = 'e' || c = 'E' then
      let (negative, digits) := sign r
      if digits.isEmpty || !digits.all isDigit then none
      else
        let n : Int := Text.digitsValue digits
        some (if negative then -n else n)
    else none

/-- The decimal that a numeral without a sign writes. -/
def decimal? (isDigit : Char → Bool) (s : List Char) : Option Number :=
  let whole := s.takeWhile isDigit
  let rest := s.dropWhile isDigit
  let (fraction, rest) := match rest with
    | '.' :: r => (r.takeWhile isDigit, r.dropWhile isDigit)
    | r => ([], r)
  if whole.isEmpty && fraction.isEmpty then none
  else
    let n := Number.ofDigits whole fraction
    (exponent? isDigit rest).map fun e => ⟨n.digits, n.exponent + e⟩

/-- The number that a text writes: a numeral, or the name of infinity or of what is no number in
any case. -/
def number? (isDigit : Char → Bool) (s : List Char) : Option Float :=
  let (negative, body) := sign s
  let name := String.ofList (body.map Char.toLower)
  if name = "inf" || name = "infinity" then some (signed negative infinity)
  else if name = "nan" then some (signed negative notANumber)
  else (decimal? isDigit body).map fun n => signed negative n.toFloat

/-- The text without underscores, each of which has to stand between two digits. -/
def withoutJoints? (isDigit : Char → Bool) : Option Char → List Char → Option (List Char)
  | _, [] => some []
  | before, '_' :: r =>
    match before, r with
    | some d, c :: _ =>
      if isDigit d && isDigit c then withoutJoints? isDigit (some '_') r else none
    | _, _ => none
  | _, c :: r => (withoutJoints? isDigit (some c) r).map (c :: ·)

/-- The number that an argument of the command line writes: digits of any script, white space around
it and single underscores between digits are taken. -/
def exactNumber? (s : String) : Option Float :=
  (withoutJoints? Text.isDecimal none (Text.trimSpace s.toList)).bind (number? Text.isDecimal)

/-- Whether a text can be read again without its underscores: it has some, none of them at its ends
and no two in a row. -/
def hasInnerJoints (s : List Char) : Bool :=
  s.contains '_' && s.head? != some '_' && s.getLast? != some '_'
    && !(s.zip s.tail).any fun p => p.1 == '_' && p.2 == '_'

/-- The number that a text of the settings writes: digits 0 to 9, with white space around them or
with underscores among them, but not with both. -/
def laxNumber? (s : String) : Option Float :=
  let cs := s.toList
  match number? Text.isAsciiDigit (Text.trimSpace cs) with
  | some x => some x
  | none =>
    if hasInnerJoints cs then number? Text.isAsciiDigit (cs.filter (· != '_')) else none

end GpuMetrics.Decimal
