import GpuMetrics.Text.Pieces
import GpuMetrics.Yaml.Stamp

/-!
# Tags

The tag of a node tells what kind of value it is. A text without quotes and without a tag has the
tag that its form shows: nothing, yes or no, a number, a date, and else it is a text.
-/

namespace GpuMetrics.Yaml

/-- The kinds of values. -/
inductive Tag
  | /-- Nothing. -/
    null
  | /-- Yes or no. -/
    flag
  | /-- A whole number. -/
    integer
  | /-- A binary number. -/
    number
  | /-- Bytes. -/
    binary
  | /-- A date. -/
    timestamp
  | /-- A list of keys with values. -/
    orderedMap
  | /-- A list of pairs. -/
    pairs
  | /-- A set. -/
    set
  | /-- A text. -/
    text
  | /-- A list. -/
    sequence
  | /-- A table. -/
    mapping
  | /-- The key whose value is merged into a table. -/
    merge
  | /-- The key whose value stands for a table. -/
    value
  | /-- A kind that is not known. -/
    other (name : String)
  deriving DecidableEq, Repr

namespace Tag

/-- What the names of the known kinds begin with. -/
def stem : String := "tag:yaml.org,2002:"

/-- The known kinds and their names. -/
def known : List (String × Tag) := [
  ("null", null), ("bool", flag), ("int", integer), ("float", number), ("binary", binary),
  ("timestamp", timestamp), ("omap", orderedMap), ("pairs", pairs), ("set", set), ("str", text),
  ("seq", sequence), ("map", mapping), ("merge", merge), ("value", value)]

/-- The kind of a name. -/
def ofName (name : String) : Tag :=
  if Text.startsWith stem name then
    (known.lookup (String.ofList (name.toList.drop stem.length))).getD (other name)
  else other name

/-- The name of a kind. -/
def name (t : Tag) : String :=
  match t with
  | other name => name
  | t => match known.find? fun e => e.2 = t with
    | some e => stem ++ e.1
    | none => stem

/-! ## Forms -/

/-- A digit or an underscore. -/
def isDigitOrJoint (c : Char) : Bool := Text.isAsciiDigit c || c = '_'

/-- A text without a sign in front. -/
def unsigned (s : List Char) : List Char :=
  match s with
  | '+' :: r => r
  | '-' :: r => r
  | s => s

/-- Whether a text is not empty and made of a class of characters. -/
def allOf (p : Char → Bool) (s : List Char) : Bool := !s.isEmpty && s.all p

/-- One digit or two, and below sixty. -/
def isSixtieth (s : List Char) : Bool :=
  match s with
  | [d] => Text.isAsciiDigit d
  | [t, d] => '0' ≤ t && t ≤ '5' && Text.isAsciiDigit d
  | _ => false

/-- A digit, and behind it digits or underscores. -/
def isWhole (s : List Char) : Bool :=
  (s.head?.any Text.isAsciiDigit) && s.all isDigitOrJoint

/-- Whether a text is a whole number in base two, eight, ten, sixteen or sixty. -/
def isInteger (s : List Char) : Bool :=
  match unsigned s with
  | [] => false
  | ['0'] => true
  | '0' :: 'b' :: r => allOf (fun c => c = '0' || c = '1' || c = '_') r
  | '0' :: 'x' :: r => allOf (fun c => Text.isHex c || c = '_') r
  | '0' :: r => allOf (fun c => ('0' ≤ c && c ≤ '7') || c = '_') r
  | s =>
    match Text.pieces ':' s with
    | first :: rest => isWhole first && rest.all isSixtieth
    | [] => false

/-- An exponent with its sign. -/
def isExponent (s : List Char) : Bool :=
  match s with
  | [] => true
  | e :: sign :: r =>
    (e = 'e' || e = 'E') && (sign = '+' || sign = '-') && allOf Text.isAsciiDigit r
  | _ => false

/-- A number with a point, and perhaps an exponent. -/
def isDecimal (s : List Char) : Bool :=
  let signed := unsigned s
  match Text.cutFirst '.' signed with
  | (_, none) => false
  | (whole, some rest) =>
    let fraction := rest.takeWhile isDigitOrJoint
    let exponent := rest.dropWhile isDigitOrJoint
    if whole.isEmpty then
      signed.length = s.length && fraction.head?.any Text.isAsciiDigit && isExponent exponent
    else isWhole whole && isExponent exponent

/-- A number in base sixty with a point. -/
def isSexagesimal (s : List Char) : Bool :=
  match Text.cutFirst '.' (unsigned s) with
  | (_, none) => false
  | (whole, some fraction) =>
    match Text.pieces ':' whole with
    | first :: second :: rest =>
      isWhole first && (second :: rest).all isSixtieth && fraction.all isDigitOrJoint
    | _ => false

/-- Infinity, or what is no number. -/
def isSpecial (s : List Char) : Bool :=
  String.ofList (unsigned s) ∈ [".inf", ".Inf", ".INF"]
    || String.ofList s ∈ [".nan", ".NaN", ".NAN"]

/-- The words for yes and no. -/
def flagWords : List String := [
  "yes", "Yes", "YES", "no", "No", "NO", "true", "True", "TRUE", "false", "False", "FALSE",
  "on", "On", "ON", "off", "Off", "OFF"]

/-- The words for nothing. -/
def nullWords : List String := ["~", "null", "Null", "NULL"]

/-- The kind that the form of a text shows. A line end behind it does not count. -/
def ofForm (s : String) : Tag :=
  if s.isEmpty then null
  else
    let cs := s.toList
    let cs := if cs.getLast? = some '\n' then cs.dropLast else cs
    let w := String.ofList cs
    if w ∈ flagWords then flag
    else if isDecimal cs || isSexagesimal cs || isSpecial cs then number
    else if isInteger cs then integer
    else if w = "<<" then merge
    else if w ∈ nullWords then null
    else if Stamp.isPlain cs then timestamp
    else if w = "=" then value
    else if w ∈ ["!", "&", "*"] then other (stem ++ "yaml")
    else text

end Tag

end GpuMetrics.Yaml
