import GpuMetrics.Decimal.Layout
import GpuMetrics.Decimal.Numeral
import GpuMetrics.Metric.Family
import GpuMetrics.Text.Pieces

/-!
# Families as text

A family is written as a line with its description, a line with its kind, and a line for each
sample: its name, its labels in the order of their names, and its value. Values of a million and
more are written with an exponent.
-/

namespace GpuMetrics.Metric

/-! ## Values -/

/-- A text without any characters of a class at its end. -/
def trimmedEnd (p : Char → Bool) (s : List Char) : List Char := (s.reverse.dropWhile p).reverse

/-- A positive number of a million or more that is written with a point: one digit before the point,
the others behind it without zeros at the end, and how far the point was moved. -/
def withExponent (whole fraction : List Char) : List Char :=
  match whole with
  | [] => fraction
  | d :: r =>
    trimmedEnd (fun c => c = '0' || c = '.') (d :: '.' :: (r ++ fraction)) ++ ['e', '+']
      ++ (if r.length < 10 then ['0'] else []) ++ Text.decimalText r.length

/-- The value of a sample. -/
def valueText (x : Float) : String :=
  if x.isNaN then "NaN"
  else if x == Decimal.infinity then "+Inf"
  else if x == -Decimal.infinity then "-Inf"
  else
    let s := (Decimal.text x).toList
    let whole := s.takeWhile (· != '.')
    match s.dropWhile (· != '.') with
    | _ :: fraction =>
      if x > 0 && whole.length > 6 then String.ofList (withExponent whole fraction)
      else String.ofList s
    | [] => String.ofList s

/-! ## Names -/

/-- A text in which every character that no plain name has at its place is an underscore. -/
def plainChars : List Char → List Char
  | [] => []
  | c :: r =>
    (if isNameStart c then c else '_') :: r.map fun c => if isNameChar c then c else '_'

/-- How a name is written. -/
def nameText (name : String) : String :=
  if isPlainLine name.toList then name else String.ofList (plainChars name.toList)

/-! ## Lines -/

/-- A character of a description. -/
def docChar (c : Char) : List Char :=
  if c = '\\' then ['\\', '\\'] else if c = '\n' then ['\\', 'n'] else [c]

/-- A character of the value of a label. -/
def labelChar (c : Char) : List Char := if c.toNat = 34 then ['\\', c] else docChar c

/-- A text with each character written in its own way. -/
def written (f : Char → List Char) (s : String) : String := String.ofList (s.toList.flatMap f)

/-- A label and its value between quotes. -/
def labelText (label : String × String) : String :=
  let quote := String.singleton (Char.ofNat 34)
  label.1 ++ "=" ++ quote ++ written labelChar label.2 ++ quote

/-- Puts a label into labels in the order of their names. -/
def insertLabel (label : String × String) : List (String × String) → List (String × String)
  | [] => [label]
  | l :: r => if label.1 < l.1 then label :: l :: r else l :: insertLabel label r

/-- Labels in the order of their names. -/
def sortedLabels (labels : List (String × String)) : List (String × String) :=
  labels.foldl (fun r l => insertLabel l r) []

/-- Labels between braces. Without labels there are no braces. -/
def labelsText (labels : List (String × String)) : String :=
  if labels.isEmpty then ""
  else "\x7b" ++ Text.joined "," ((sortedLabels labels).map labelText) ++ "\x7d"

/-- The line of a sample. -/
def Sample.line (s : Sample) : String :=
  nameText s.name ++ labelsText s.labels ++ " " ++ valueText s.value ++ "\n"

/-- The name of a family above its samples. -/
def Family.title (f : Family) : String :=
  nameText <| match f.kind with
    | .gauge => f.name
    | .counter => f.name ++ totalEnding

/-- The lines of a family. -/
def Family.text (f : Family) : String :=
  "# HELP " ++ f.title ++ " " ++ written docChar f.documentation ++ "\n"
    ++ "# TYPE " ++ f.title ++ " " ++ f.kind.name ++ "\n"
    ++ Text.joined "" (f.samples.map Sample.line)

/-- The lines of some families: `generate_latest`. -/
def exposition (families : List Family) : String := Text.joined "" (families.map Family.text)

end GpuMetrics.Metric
