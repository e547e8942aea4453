import GpuMetrics.Log.Record
import GpuMetrics.Text.Case

/-!
# Names of metrics

A metric is named after the header of its column. A unit in brackets at the end of the header
becomes an ending of the name and a factor for the readings; points become underscores; words that
are run together with capital letters are parted by underscores and written small. Brackets and
spaces that are left are dropped as far as they can be, and the record of the name is a warning.
-/

namespace GpuMetrics.Metric

/-! ## Words run together -/

/-- A capital letter of ASCII. -/
def isCapital (c : Char) : Bool := 65 ≤ c.toNat && c.toNat ≤ 90

/-- A small letter of ASCII. -/
def isSmall (c : Char) : Bool := 97 ≤ c.toNat && c.toNat ≤ 122

/-- Parts a character from a capitalised word behind it: the first of the two substitutions in
`to_snake_case`. The word is a capital letter and as many small letters as follow; `inWord` tells
that the text before was such a word, whose letters cannot part anything themselves. A line end is
never parted from a word. -/
def partWords (inWord : Bool) : List Char → List Char
  | [] => []
  | c :: r =>
    if inWord && isSmall c then c :: partWords true r
    else match r with
      | u :: l :: r' =>
        if c ≠ '\n' && isCapital u && isSmall l then
          c :: '_' :: u :: l :: partWords true r'
        else c :: partWords false (u :: l :: r')
      | r => c :: r

/-- Parts a small letter or a digit from a capital letter behind it: the second of the two
substitutions in `to_snake_case`. -/
def partCapitals : List Char → List Char
  | [] => []
  | c :: r =>
    match r with
    | [] => [c]
    | u :: _ =>
      if (isSmall c || Text.isAsciiDigit c) && isCapital u then c :: '_' :: partCapitals r
      else c :: partCapitals r

/-- Words run together with capital letters, parted by underscores and in small letters. -/
def snakeCase (s : List Char) : List Char := Text.lower (partCapitals (partWords false s))

/-- Words run together with capital letters, parted by underscores and in small letters, as
`to_snake_case` gives them. -/
def toSnakeCase (s : String) : String := String.ofList (snakeCase s.toList)

/-! ## Units -/

/-- A unit: its mark at the end of a header, the ending it gives to a name, and the factor that
turns readings into base units. -/
structure Measure where
  mark : String
  ending : String
  multiplier : Float

/-- The units that the tool prints. -/
def measures : List Measure := [
  ⟨" [W]", "_watts", 1.0⟩,
  ⟨" [MHz]", "_clock_hz", 1000000.0⟩,
  ⟨" [MiB]", "_bytes", 1048576.0⟩,
  ⟨" [%]", "_ratio", 0.01⟩,
  ⟨" [us]", "_seconds", 0.000001⟩]

/-- The unit whose mark a header ends with. -/
def measure? (header : String) : Option Measure :=
  measures.find? fun m => Text.endsWith m.mark header

/-! ## Names -/

/-- The name of a metric, with `stem` and an underscore in front unless the stem is empty:
`build_fq_name`. -/
def qualified (stem name : String) : String :=
  if stem.isEmpty then name else stem ++ "_" ++ name

/-- What a header says about its metric. -/
structure Naming where
  /-- The name without the stem. -/
  base : String
  /-- The factor for the readings. -/
  multiplier : Float
  /-- Whether spaces or brackets had to be dropped from the name. -/
  cleaned : Bool

/-- The part of a header before its first space. -/
def firstWord (header : List Char) : List Char := header.takeWhile (· != ' ')

/-- A space or a bracket, which no name should have. -/
def isStray (c : Char) : Bool := c = ' ' || c = '[' || c = ']'

/-- Spaces before an opening bracket and the bracket become an underscore, and closing brackets are
dropped. -/
def clean (name : List Char) : List Char :=
  (Text.replaced [' ', '['] ['_'] name).filter (· != ']')

/-- A header without its unit, which becomes an ending. -/
def withEnding (header : String) : List Char :=
  match measure? header with
  | some m => firstWord header.toList ++ m.ending.toList
  | none => header.toList

/-- The name and the factor that a header stands for, as `build_fq_name_and_multiplier` finds them.
The name is still without the stem. -/
def ofHeader (header : String) : Naming :=
  let name := snakeCase ((withEnding header).map fun c => if c = '.' then '_' else c)
  let cleaned := name.any isStray
  { base := String.ofList (if cleaned then clean name else name)
    multiplier := ((measure? header).map (·.multiplier)).getD 1.0
    cleaned := cleaned }

/-- The records of a name: a warning if it had to be cleaned. -/
def Naming.records (n : Naming) (channel header : String) : List Log.Record :=
  if n.cleaned then
    [{ channel := channel
       level := .warning
       message := "Returned field " ++ Text.quoted header ++ " contains unexpected characters, "
         ++ "parsed with best effort as " ++ Text.quoted n.base
       extra := [("returned_field", .text header), ("parsed_name", .text n.base)] }]
  else []

/-! ## What is known of a metric before any reading -/

/-- The name, the description and the factor of the metric of a query field. -/
structure Info where
  name : String
  documentation : String
  multiplier : Float

/-- What a header says about the metric of its column: `build_metric_info`. -/
def Info.ofHeader (stem header : String) : Info :=
  let n := Metric.ofHeader header
  ⟨qualified stem n.base, header, n.multiplier⟩

/-- What the headers say about the metrics of their query fields: `build_metric_infos`. -/
def infos (stem : String) (headers : Keyed String String) : Keyed String Info :=
  headers.map fun (field, header) => (field, .ofHeader stem header)

/-- The records of the names of all headers. -/
def namingRecords (channel : String) (headers : Keyed String String) : List Log.Record :=
  headers.flatMap fun (_, header) => (Metric.ofHeader header).records channel header

end GpuMetrics.Metric
