import GpuMetrics.Text.Digit
import GpuMetrics.Text.Wording

/-!
# Tokens of a YAML text

What a text is made of once spaces, comments and the shape of its lines have been read. The starts
and ends of block collections, which a text shows by indentation alone, are tokens too.
-/

namespace GpuMetrics.Yaml

/-! ## Faults -/

/-- What can be wrong with a YAML text. -/
inductive Fault
  | /-- The text has a character that may not stand in it. -/
    character (code : Nat)
  | /-- The text does not follow the rules; `headline` tells where this was seen. -/
    malformed (headline : String)
  | /-- A value does not follow the rules of its tag. -/
    badValue (message : String)
  | /-- A word stands for neither yes nor no. -/
    unknownWord (word : Text.Wording)
  | /-- A number is written with nothing behind its sign. -/
    noDigits
  | /-- An escape names a code far beyond all characters. -/
    hugeCode
  | /-- A number in base sixty has more places than can be weighed. -/
    hugeWeight
  | /-- A text that should be a date is written in another way. -/
    noDate
  | /-- A table that stands for a text should be a date. -/
    dateOfTable
  | /-- A collection holds itself. -/
    endless
  deriving DecidableEq, Repr

/-- How a message names the fault. -/
def Fault.message : Fault → String
  | character code =>
    "unacceptable character #x" ++ String.ofList (Text.hexText 4 code)
      ++ ": special characters are not allowed"
  | malformed headline => headline
  | badValue message => message
  | unknownWord word => word.quoted
  | noDigits => "string index out of range"
  | hugeCode => "Python int too large to convert to C int"
  | hugeWeight => "int too large to convert to float"
  | noDate => "'NoneType' object has no attribute 'groupdict'"
  | dateOfTable => "expected string or bytes-like object, got 'list'"
  | endless => "maximum recursion depth exceeded"

/-! ## Tokens -/

/-- A line that tells how a document is to be read. -/
inductive Directive
  | /-- The version of the rules. -/
    version (major minor : Nat)
  | /-- What a handle in front of a tag stands for. -/
    handle (name stands : String)
  | /-- A line of another kind, which says nothing. -/
    other
  deriving DecidableEq, Repr

/-- A token. -/
inductive Token
  | /-- A line that tells how a document is to be read. -/
    directive (d : Directive)
  | /-- The start of a document. -/
    documentStart
  | /-- The end of a document. -/
    documentEnd
  | /-- The end of the text. -/
    streamEnd
  | /-- The start of a block list. -/
    blockSequenceStart
  | /-- The start of a block table. -/
    blockMappingStart
  | /-- The end of a block list or table. -/
    blockEnd
  | /-- An opening square bracket. -/
    flowSequenceStart
  | /-- A closing square bracket. -/
    flowSequenceEnd
  | /-- An opening brace. -/
    flowMappingStart
  | /-- A closing brace. -/
    flowMappingEnd
  | /-- The hyphen in front of an item of a block list. -/
    blockEntry
  | /-- The comma between items. -/
    flowEntry
  | /-- The place in front of a key. -/
    key
  | /-- The colon in front of a value. -/
    value
  | /-- The name of a node that stands elsewhere. -/
    reference (name : String)
  | /-- A name for the node that follows. -/
    anchor (name : String)
  | /-- The tag of the node that follows: a handle, if it has one, and the rest. -/
    tag (handle : Option String) (suffix : String)
  | /-- A text; `plain` tells that it stands without quotes and is no block. -/
    scalar (text : Text.Wording) (plain : Bool)
  deriving DecidableEq, Repr

/-- How a message names a token. -/
def Token.label : Token → String
  | directive _ => "<directive>"
  | documentStart => "<document start>"
  | documentEnd => "<document end>"
  | streamEnd => "<stream end>"
  | blockSequenceStart => "<block sequence start>"
  | blockMappingStart => "<block mapping start>"
  | blockEnd => "<block end>"
  | flowSequenceStart => "["
  | flowSequenceEnd => "]"
  | flowMappingStart => "\x7b"
  | flowMappingEnd => "\x7d"
  | blockEntry => "-"
  | flowEntry => ","
  | key => "?"
  | value => ":"
  | reference _ => "<alias>"
  | anchor _ => "<anchor>"
  | tag _ _ => "<tag>"
  | scalar _ _ => "<scalar>"

end GpuMetrics.Yaml
