import GpuMetrics.Decimal.Layout
import GpuMetrics.Document.Basic
import GpuMetrics.Text.Pieces

/-!
# Documents on one line

A document as one line of JSON in ASCII. Items are separated by a comma and a space, keys and values
by a colon and a space. Characters beyond ASCII and controls are escaped in units of 16 bits.
-/

namespace GpuMetrics.Document

/-- The escape of a unit of 16 bits. -/
def unitEscape (n : Nat) : List Char := '\\' :: 'u' :: Text.hexText 4 n

/-- A character between the quotes of a JSON text. -/
def jsonChar (c : Char) : List Char :=
  let n := c.toNat
  if n = 34 || n = 92 then ['\\', c]
  else if n = 10 then ['\\', 'n']
  else if n = 13 then ['\\', 'r']
  else if n = 9 then ['\\', 't']
  else if n = 12 then ['\\', 'f']
  else if n = 8 then ['\\', 'b']
  else if 32 ≤ n && n < 127 then [c]
  else if n < 0x10000 then unitEscape n
  else
    let m := n - 0x10000
    unitEscape (0xD800 + m / 1024) ++ unitEscape (0xDC00 + m % 1024)

/-- A code point between the quotes of a JSON text. -/
def jsonPoint : Text.CodePoint → List Char
  | .character c => jsonChar c
  | .surrogate s => unitEscape s.code

/-- A text between quotes. -/
def jsonText (w : Text.Wording) : String :=
  String.ofList (Text.doubleQuote :: w.points.flatMap jsonPoint ++ [Text.doubleQuote])

/-- The notation of numbers in JSON. -/
def jsonNumbers : Decimal.Layout :=
  { Decimal.Layout.plain with infinity := "Infinity", notANumber := "NaN" }

/-- A key between quotes. -/
def jsonKey : Key → String
  | .name w => jsonText w
  | .other label => jsonText label

mutual

/-- A document as a line of JSON. A value of a kind that JSON does not have is written as nothing.
-/
def json : Document → String
  | .null => "null"
  | .flag b => if b then "true" else "false"
  | .integer i => Text.integerText i
  | .number x => jsonNumbers.text x
  | .text w => jsonText w
  | .bytes _ => "null"
  | .list items => "[" ++ Text.joined ", " (jsonItems items) ++ "]"
  | .table entries => "\x7b" ++ Text.joined ", " (jsonEntries entries) ++ "\x7d"
  | .foreign _ _ => "null"

/-- The items of a list, each as JSON. -/
def jsonItems : List Document → List String
  | [] => []
  | d :: r => json d :: jsonItems r

/-- The entries of a table, each as JSON. -/
def jsonEntries : List (Key × Document) → List String
  | [] => []
  | (k, d) :: r => (jsonKey k ++ ": " ++ json d) :: jsonEntries r

end

end GpuMetrics.Document
