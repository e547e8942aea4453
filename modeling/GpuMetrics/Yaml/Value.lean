import GpuMetrics.Decimal.Numeral
import GpuMetrics.Document.Basic
import GpuMetrics.Text.Base64
import GpuMetrics.Text.Case
import GpuMetrics.Text.Whole
import GpuMetrics.Yaml.Graph

/-!
# Values of texts

What a text stands for follows from its tag: nothing, yes or no, a number, bytes, a date, or the
text itself.
-/

namespace GpuMetrics.Yaml

open Text (CodePoint Wording)

/-! ## Numbers -/

/-- A text without underscores. -/
def withoutJoints (w : Wording) : Wording :=
  w.map fun s => String.ofList (s.toList.filter (· ≠ '_'))

/-- The sign and the rest of a number; there has to be something. -/
def signed (s : List CodePoint) : Except Fault (Bool × List CodePoint) :=
  match s with
  | [] => .error .noDigits
  | .character '-' :: r => .ok (true, r)
  | .character '+' :: r => .ok (false, r)
  | s => .ok (false, s)

/-- The parts of a number in base sixty. -/
def sixtieths (s : List CodePoint) : List (List CodePoint) := Text.pieces (.character ':') s

/-- Whether a number is written in base sixty. -/
def isSixties (s : List CodePoint) : Bool := s.contains (.character ':')

/-- The whole number that a text writes in a base. -/
def wholeIn (base : Nat) (s : List CodePoint) : Except Fault Int :=
  (Text.Whole.readWording base (.ofPoints s)).mapError fun e => .badValue e.message

/-- A number in base sixty. -/
def sixties (parts : List (List CodePoint)) : Except Fault Int :=
  (parts.mapM (wholeIn 10)).map fun l => l.foldl (fun n d => n * 60 + d) 0

/-- The whole number that a text writes without its sign. -/
def magnitude (s : List CodePoint) : Except Fault Int :=
  match s with
  | [] => .error .noDigits
  | [.character '0'] => .ok 0
  | .character '0' :: .character 'b' :: r => wholeIn 2 r
  | .character '0' :: .character 'x' :: r => wholeIn 16 r
  | .character '0' :: _ => wholeIn 8 s
  | s => if isSixties s then sixties (sixtieths s) else wholeIn 10 s

/-- The whole number that a text writes. -/
def integerOf (w : Wording) : Except Fault Int :=
  match signed (withoutJoints w).points with
  | .error e => .error e
  | .ok (negative, r) => (magnitude r).map fun n => if negative then -n else n

/-- The number that a text writes without its sign. -/
def realOf (s : List CodePoint) : Except Fault Float :=
  let w := Wording.ofPoints s
  match w.string?.bind Decimal.exactNumber? with
  | some x => .ok x
  | none => .error (.badValue ("could not convert string to float: " ++ w.quoted))

/-- The sum of digits in base sixty, the last one first, where the first of them is weighed with
`weight`. No weight may lie beyond all binary numbers. -/
def weighed (sum : Float) (weight : Int) : List Float → Except Fault Float
  | [] => .ok sum
  | x :: r =>
    let w := Decimal.ofInt weight
    if w.isInf then .error .hugeWeight else weighed (sum + x * w) (weight * 60) r

/-- A number with a point in base sixty, whose last place is one part. -/
def realSixties (parts : List (List CodePoint)) : Except Fault Float :=
  (parts.mapM realOf).bind fun l => weighed 0 1 l.reverse

/-- The number that a text writes. -/
def numberOf (w : Wording) : Except Fault Float :=
  match signed ((withoutJoints w).map Text.lowered).points with
  | .error e => .error e
  | .ok (negative, r) =>
    let x : Except Fault Float :=
      if r = Wording.pointsOf ".inf" then .ok Decimal.infinity
      else if r = Wording.pointsOf ".nan" then .ok Decimal.notANumber
      else if isSixties r then realSixties (sixtieths r)
      else realOf r
    x.map fun x => if negative then -x else x

/-! ## Words, dates and bytes -/

/-- The words for yes and no. -/
def flagWords : List (String × Bool) :=
  [("yes", true), ("no", false), ("true", true), ("false", false), ("on", true), ("off", false)]

/-- What a word says, in letters of any case. -/
def flagOf (w : Wording) : Except Fault Bool :=
  let word := w.map Text.lowered
  match word.string?.bind fun s => flagWords.lookup s with
  | some b => .ok b
  | none => .error (.unknownWord word)

/-- The date that a text writes. Of a date only the kind is kept. -/
def dateOf (w : Wording) : Except Fault Document :=
  let cs := w.outline.toList
  match Stamp.read? (if cs.getLast? = some '\n' then cs.dropLast else cs) with
  | none => .error .noDate
  | some d =>
    match d.problem? with
    | some message => .error (.badValue message)
    | none =>
      .ok (.foreign (if d.time.isSome then "datetime.datetime" else "datetime.date") false)

/-- The bytes that a text writes. -/
def binaryOf (w : Wording) : Except Fault (List UInt8) :=
  (Text.Base64.bytes w).mapError fun e => .malformed e.message

/-! ## Values -/

/-- The fault of a tag whose values are not known. -/
def tagFault (tag : Tag) : Fault :=
  .malformed ("could not determine a constructor for the tag " ++ Text.quoted tag.name)

/-- Whether the values of a tag are made from other values. -/
def isCollection : Tag → Bool
  | .sequence | .mapping | .set | .orderedMap | .pairs => true
  | _ => false

/-- Whether the values of a tag are written as texts. -/
def isTextual : Tag → Bool
  | .null | .flag | .integer | .number | .binary | .timestamp | .text => true
  | _ => false

/-- The value of a text. -/
def scalarOf (tag : Tag) (w : Wording) : Except Fault Document :=
  match tag with
  | .null => .ok .null
  | .flag => (flagOf w).map .flag
  | .integer => (integerOf w).map .integer
  | .number => (numberOf w).map .number
  | .binary => (binaryOf w).map .bytes
  | .timestamp => dateOf w
  | .text => .ok (.text w)
  | t => .error (tagFault t)

/-- The value of a node whose tag asks for a text. A table can stand for any text but a date. -/
def Graph.valueOf (g : Graph) (i : Nat) : Except Fault Document :=
  let tag := g.tagOf i
  if !isTextual tag then .error (tagFault tag)
  else match g.textOf i with
    | .error e => .error e
    | .ok w =>
      if tag = .timestamp && g.isMapping i then .error .dateOfTable else scalarOf tag w

end GpuMetrics.Yaml
