import GpuMetrics.Keyed
import GpuMetrics.Text.Wording

/-!
# Documents

The values that settings are read from: nothing, flags, numbers, texts, lists, and tables of values
under keys in the order in which they were written. Some notations have more kinds of values, such
as bytes, dates and sets. No setting takes a date or a set, so only the name of the kind is kept.
-/

namespace GpuMetrics

/-- The key of a value in a table. -/
inductive Key
  | /-- A key that is a text. -/
    name (text : Text.Wording)
  | /-- A key of another kind, known by how it is written. -/
    other (label : String)
  deriving DecidableEq, Repr

/-- A value in a document. -/
inductive Document
  | /-- Nothing. -/
    null
  | /-- Yes or no. -/
    flag (value : Bool)
  | /-- A whole number. -/
    integer (value : Int)
  | /-- A binary number. -/
    number (value : Float)
  | /-- A text. -/
    text (value : Text.Wording)
  | /-- Bytes that need not be a text. -/
    bytes (value : List UInt8)
  | /-- Values in a row. -/
    list (items : List Document)
  | /-- Values under keys. -/
    table (entries : List (Key × Document))
  | /-- A value of a kind that no setting takes; `empty` tells whether it holds anything. -/
    foreign (kind : String) (empty : Bool)

namespace Document

/-- The document of a string. -/
def ofString (s : String) : Document := text s

/-- A document that holds nothing counts as if it were not there. -/
def isEmpty : Document → Bool
  | null => true
  | flag b => !b
  | integer i => i = 0
  | number x => x == 0
  | text w => w.isEmpty
  | bytes b => b.isEmpty
  | list items => items.isEmpty
  | table entries => entries.isEmpty
  | foreign _ empty => empty

/-- The name of a document's kind, for messages. -/
def kindName : Document → String
  | null => "NoneType"
  | flag _ => "bool"
  | integer _ => "int"
  | number _ => "float"
  | text _ => "str"
  | bytes _ => "bytes"
  | list _ => "list"
  | table _ => "dict"
  | foreign kind _ => kind

/-- The entries of a table; any other document has none. -/
def entries : Document → Keyed Key Document
  | table entries => entries
  | _ => []

/-- The value under a key of a table. -/
def get? (d : Document) (name : String) : Option Document := Keyed.get? d.entries (.name name)

/-- The table of some named values. -/
def ofFields (fields : List (String × Document)) : Document :=
  table (fields.map fun (k, v) => (.name (k : Text.Wording), v))

end Document

end GpuMetrics
