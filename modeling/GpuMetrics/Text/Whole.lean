import GpuMetrics.Text.Blank
import GpuMetrics.Text.Digit
import GpuMetrics.Text.Wording

/-!
# Whole numbers in texts

A whole number is written in digits of a base from 2 to 16, with white space around it, a sign in
front and the mark of its base if it has one. Decimal digits of every script count. Numbers in base
ten with very many digits are not read.
-/

namespace GpuMetrics.Text.Whole

/-- Why a text is no whole number. -/
inductive Fault
  | /-- The text is not written in digits of the base. -/
    noNumber (base : Nat) (text : Wording)
  | /-- The number has more digits than are read. -/
    tooLong (digits : Nat)
  deriving DecidableEq, Repr

/-- The most digits in base ten that are read as one number. -/
def mostDigits : Nat := 4300

/-- The most characters of a text that a message shows, its quotes included. -/
def mostShown : Nat := 200

/-- How a message names the fault. -/
def Fault.message : Fault → String
  | noNumber base text =>
    "invalid literal for int() with base " ++ integerText base ++ ": "
      ++ String.ofList (text.quoted.toList.take mostShown)
  | tooLong digits =>
    "Exceeds the limit (" ++ integerText mostDigits ++ " digits) for integer string "
      ++ "conversion: value has " ++ integerText digits
      ++ " digits; use sys.set_int_max_str_digits() to increase the limit"

/-- The value of a digit in a base: a decimal digit of any script, or a letter from ten on. -/
def digitIn? (base : Nat) (c : Char) : Option Nat :=
  let value := match digitValue? c with
    | some n => some n
    | none => hexValue? c
  value.filter (· < base)

/-- A digit in a base. -/
def isDigitIn (base : Nat) (c : Char) : Bool := (digitIn? base c).isSome

/-- The number that a row of digits writes in a base. -/
def valueOf (base : Nat) (s : List Char) : Nat :=
  s.foldl (fun n c => base * n + (digitIn? base c).getD 0) 0

/-- The letter that marks a base. -/
def markOf? (base : Nat) : Option Char :=
  if base = 2 then some 'b' else if base = 8 then some 'o' else if base = 16 then some 'x' else none

/-- A text without the mark of its base, if it has it. -/
def withoutMark (base : Nat) (s : List Char) : List Char :=
  match s with
  | '0' :: m :: r => if some m.toLower = markOf? base then r else s
  | s => s

/-- The number that a text without a sign writes. The fault names the text as a whole. -/
def magnitude (base : Nat) (whole : Wording) (s : List Char) : Except Fault Nat :=
  let s := withoutMark base s
  let digits := s.takeWhile (isDigitIn base)
  if base = 10 && digits.length > mostDigits then .error (.tooLong digits.length)
  else if digits.isEmpty || digits.length < s.length then
    .error (.noNumber base whole)
  else .ok (valueOf base digits)

/-- The whole number that a text writes in a base. -/
def readWording (base : Nat) (w : Wording) : Except Fault Int :=
  match trimSpace w.outline.toList with
  | '-' :: r => (magnitude base w r).map fun n => -(n : Int)
  | '+' :: r => (magnitude base w r).map fun n => (n : Int)
  | r => (magnitude base w r).map fun n => (n : Int)

/-- The whole number that some characters write in a base. -/
def read (base : Nat) (s : List Char) : Except Fault Int := readWording base (String.ofList s)

end GpuMetrics.Text.Whole
