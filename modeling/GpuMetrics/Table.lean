import GpuMetrics.Keyed
import GpuMetrics.Text.Blank
import GpuMetrics.Text.Digit
import GpuMetrics.Text.Pieces

/-!
# Tables

The tool answers with lines of cells between commas. The first line names the columns and every
further line is a device. There is one column for each query field that was asked for, in the same
order, and a line with another number of cells makes the whole answer unreadable.
-/

namespace GpuMetrics

/-- One observation: the field asked for, the header of its column, and the text of the cell. -/
structure Cell where
  queryField : String
  returnedField : String
  rawValue : String
  deriving DecidableEq, Repr

/-- The cells of one device in the order of the columns. -/
structure Row where
  cells : List Cell
  deriving DecidableEq, Repr

/-- An answer of the tool. -/
structure Table where
  queryFields : List String
  returnedFields : List String
  rows : List Row
  deriving DecidableEq, Repr

namespace Row

/-- The cell of each query field. A field that was asked for twice counts by its last cell. -/
def byField (row : Row) : Keyed String Cell :=
  Keyed.ofList (row.cells.map fun c => (c.queryField, c))

/-- The text of the cell of a query field, or `fallback` without such a cell, as `Row.raw_value`
looks it up. -/
def rawValue (row : Row) (queryField fallback : String) : String :=
  match row.byField.get? queryField with
  | some c => c.rawValue
  | none => fallback

end Row

namespace Table

/-- A line of an answer, for messages. -/
inductive Line
  | /-- The line that names the columns. -/
    header
  | /-- A line of cells, counted from zero. -/
    row (index : Nat)
  deriving DecidableEq, Repr

/-- How a message names a line. -/
def Line.name : Line → String
  | .header => "header"
  | .row i => "row " ++ Text.integerText i

/-- A line with another number of cells than there are query fields: a `FieldCountMismatchError`. -/
structure Mismatch where
  expected : Nat
  actual : Nat
  line : Line
  deriving DecidableEq, Repr

/-- How a message names the mismatch. -/
def Mismatch.message (m : Mismatch) : String :=
  "field count mismatch in " ++ m.line.name ++ ": expected " ++ Text.integerText m.expected
    ++ " fields, got " ++ Text.integerText m.actual

/-- The cells of a line: the trimmed texts between its commas, which `parse_csv_line` gives. -/
def cellsOfLine (line : List Char) : List String :=
  (Text.pieces ',' line).map fun p => String.ofList (Text.trim p)

/-- The row of the texts in a line. -/
def rowOf (queryFields returnedFields texts : List String) : Row :=
  ⟨(queryFields.zip (returnedFields.zip texts)).map fun (q, r, t) => ⟨q, r, t⟩⟩

/-- The rows of the lines from the one with the given index on. -/
def rowsFrom (queryFields returnedFields : List String) (index : Nat) :
    List (List Char) → Except Mismatch (List Row)
  | [] => .ok []
  | line :: rest =>
    let texts := cellsOfLine line
    if texts.length = queryFields.length then
      (rowsFrom queryFields returnedFields (index + 1) rest).map
        (rowOf queryFields returnedFields texts :: ·)
    else .error ⟨queryFields.length, texts.length, .row index⟩

/-- The table that an answer writes, as `parse_csv_into_table` reads it. Blanks around the whole
answer do not count. -/
def parse (text : String) (queryFields : List String) : Except Mismatch Table :=
  let body := Text.trim text.toList
  if body.isEmpty then .error ⟨queryFields.length, 0, .header⟩
  else match Text.pieces '\n' body with
    | [] => .error ⟨queryFields.length, 0, .header⟩
    | first :: rest =>
      let returnedFields := cellsOfLine first
      if returnedFields.length = queryFields.length then
        (rowsFrom queryFields returnedFields 0 rest).map fun rows =>
          ⟨queryFields, returnedFields, rows⟩
      else .error ⟨queryFields.length, returnedFields.length, .header⟩

/-- The cells of each query field from the first row to the last. -/
def byField (t : Table) : Keyed String (List Cell) :=
  let start : Keyed String (List Cell) := Keyed.ofList (t.queryFields.map fun q => (q, []))
  (t.rows.flatMap Row.cells).foldl
    (fun d c => Keyed.change d c.queryField (· ++ [c])) start

end Table

end GpuMetrics
