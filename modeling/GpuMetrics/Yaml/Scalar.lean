import GpuMetrics.Text.Digit
import GpuMetrics.Text.Quoted
import GpuMetrics.Yaml.Cursor
import GpuMetrics.Yaml.Token

/-!
# Texts in a YAML text

A text stands without quotes, between single or double quotes, or as a block below its header. A
text without quotes or between quotes may go over several lines, which are folded: the end of a line
becomes a space, and of empty lines between two others their own line ends are kept. Only an escape
between double quotes can name a surrogate.
-/

namespace GpuMetrics.Yaml

/-- What the end of a line and the empty lines behind it become in a folded text. -/
def folded (first : Char) (breaks : List Char) : List Char :=
  (if first ≠ '\n' then [first] else if breaks.isEmpty then [' '] else []) ++ breaks

/-! ## Without quotes -/

/-- A comma or a bracket, which end a text without quotes in a flow collection. -/
def isFlowMark (c : Char) : Bool :=
  c = ',' || c = '[' || c = ']' || c = '\x7b' || c = '\x7d'

/-- Whether a word without quotes ends before a character; `next` comes behind the character. -/
def endsPlain (inFlow : Bool) (c : Char) (next : Option Char) : Bool :=
  endsWord (some c) || (c = ':' && (endsWord next || (inFlow && next.any isFlowMark)))
    || (inFlow && (isFlowMark c || c = '?'))

/-- The word without quotes that a text begins with. -/
def plainWord (inFlow : Bool) : List Char → List Char
  | [] => []
  | c :: r => if endsPlain inFlow c r.head? then [] else c :: plainWord inFlow r

/-- The empty lines and the indentation behind the end of a line, for at most `n` characters. `acc`
holds the line ends so far, backwards. There are none if a document starts or ends. -/
def plainBreaks : Nat → Cursor → List Char → Option (List Char) × Cursor
  | 0, c, acc => (some acc.reverse, c)
  | n + 1, c, acc =>
    if c.peek = some ' ' then plainBreaks n c.next acc
    else match c.lineBreak? with
      | none => (some acc.reverse, c)
      | some (b, c) => if c.atMark then (none, c) else plainBreaks n c (b :: acc)

/-- What stands between two words without quotes. -/
structure PlainGap where
  /-- What the gap becomes in the text; nothing if a document starts or ends in it. -/
  text : Option (List Char)
  /-- Whether a line ends in the gap. -/
  broken : Bool
  /-- Where the gap ends. -/
  cursor : Cursor

/-- The gap behind a word without quotes. -/
def plainGap (c : Cursor) : PlainGap :=
  let (blanks, c) := c.run (· = ' ')
  match c.lineBreak? with
  | none => ⟨some blanks, false, c⟩
  | some (b, c) =>
    if c.atMark then ⟨none, true, c⟩
    else
      let (breaks, c) := plainBreaks c.rest.length c []
      ⟨breaks.map (folded b), true, c⟩

/-- A text without quotes that has been read. -/
structure Plain where
  text : List Char
  /-- Whether a line ends behind the text. -/
  broken : Bool
  /-- Where the text ends, with the gap behind it. -/
  cursor : Cursor

/-- Reads a text without quotes from a word on, at most `n` words. `indent` is the least column of
its further lines outside of flow collections, and `before` what stands in front of the word. -/
def plainFrom (inFlow : Bool) (indent : Int) : Nat → List Char → Cursor → Plain
  | 0, before, c => ⟨before, false, c⟩
  | n + 1, before, c =>
    let word := plainWord inFlow c.rest
    let gap := plainGap (c.skip word.length)
    let stop : Plain := ⟨before ++ word, gap.broken, gap.cursor⟩
    match gap.text with
    | none => stop
    | some blanks =>
      if blanks.isEmpty || gap.cursor.peek = some '#'
          || (!inFlow && (gap.cursor.column : Int) < indent)
          || (plainWord inFlow gap.cursor.rest).isEmpty then stop
      else plainFrom inFlow indent n (before ++ word ++ blanks) gap.cursor

/-- Reads a text without quotes. -/
def plain (inFlow : Bool) (indent : Int) (c : Cursor) : Plain :=
  plainFrom inFlow indent (c.rest.length + 1) [] c

/-! ## Between quotes -/

/-- The headline of a fault between quotes. -/
def quotedFault : Fault := .malformed "while scanning a quoted scalar"

/-- The headline of a fault in an escape. -/
def escapeFault : Fault := .malformed "while scanning a double-quoted scalar"

/-- The escapes of one letter. -/
def letterEscapes : List (Char × Char) := [
  ('0', Char.ofNat 0), ('a', Char.ofNat 7), ('b', Char.ofNat 8), ('t', '\t'), ('\t', '\t'),
  ('n', '\n'), ('v', Char.ofNat 11), ('f', Char.ofNat 12), ('r', '\r'), ('e', Char.ofNat 27),
  (' ', ' '), (Text.doubleQuote, Text.doubleQuote), ('\\', '\\'), ('/', '/'),
  ('N', Char.ofNat 0x85), ('_', Char.ofNat 0xA0), ('L', Char.ofNat 0x2028),
  ('P', Char.ofNat 0x2029)]

/-- The letters of escapes by code, and how many digits the code has. -/
def codeEscapes : List (Char × Nat) := [('x', 2), ('u', 4), ('U', 8)]

/-- The first code that is too large for any kind of number of a code. -/
def codeLimit : Nat := 0x80000000

/-- What a code stands for. -/
def pointOfCode (n : Nat) : Except Fault Text.CodePoint :=
  if n ≥ codeLimit then .error .hugeCode
  else if n ≥ 0x110000 then .error (.badValue "chr() arg not in range(0x110000)")
  else .ok (.ofCode n)

/-- The empty lines and the blanks behind the end of a line, for at most `n` lines. -/
def quotedBreaks : Nat → Cursor → List Char → Except Fault (List Char × Cursor)
  | 0, c, acc => .ok (acc.reverse, c)
  | n + 1, c, acc =>
    if c.atMark then .error quotedFault
    else
      let c := (c.run isGap).2
      match c.lineBreak? with
      | none => .ok (acc.reverse, c)
      | some (b, c) => quotedBreaks n c (b :: acc)

/-- What an escape stands for. The cursor is behind the backslash. -/
def escape (c : Cursor) : Except Fault (List Text.CodePoint × Cursor) :=
  match c.peek with
  | none => .error escapeFault
  | some e =>
    match letterEscapes.lookup e, codeEscapes.lookup e, c.lineBreak? with
    | some x, _, _ => .ok ([.character x], c.next)
    | none, some n, _ =>
      let digits := (c.next.rest.take n).takeWhile Text.isHex
      if digits.length < n then .error escapeFault
      else (pointOfCode (Text.valueIn 16 digits)).map fun p => ([p], c.next.skip n)
    | none, none, some (_, c) =>
      (quotedBreaks (c.rest.length + 1) c []).map fun (breaks, c) => (breaks.map .character, c)
    | none, none, none => .error escapeFault

/-- The text up to a blank, the end of a line or the closing quote, in at most `n` steps. `acc`
holds the text so far, backwards. -/
def quotedRun (double : Bool) :
    Nat → Cursor → List Text.CodePoint → Except Fault (List Text.CodePoint × Cursor)
  | 0, c, acc => .ok (acc, c)
  | n + 1, c, acc =>
    match c.peek with
    | none => .ok (acc, c)
    | some x =>
      if endsWord (some x) then .ok (acc, c)
      else if double then
        if x = Text.doubleQuote then .ok (acc, c)
        else if x = '\\' then
          match escape c.next with
          | .error e => .error e
          | .ok (s, c) => quotedRun double n c (s.reverse ++ acc)
        else quotedRun double n c.next (.character x :: acc)
      else if x = Text.singleQuote then
        if c.peekAt 1 = some Text.singleQuote then
          quotedRun double n (c.skip 2) (.character x :: acc)
        else .ok (acc, c)
      else quotedRun double n c.next (.character x :: acc)

/-- What the blanks or the ends of lines between two parts of a quoted text become. -/
def quotedGap (c : Cursor) : Except Fault (List Char × Cursor) :=
  let (blanks, c) := c.run isGap
  if c.atEnd then .error quotedFault
  else match c.lineBreak? with
    | none => .ok (blanks, c)
    | some (b, c) =>
      (quotedBreaks (c.rest.length + 1) c []).map fun (breaks, c) => (folded b breaks, c)

/-- Reads a quoted text to its closing quote, in at most `n` parts. `acc` holds the text so far,
backwards. -/
def quotedFrom (double : Bool) :
    Nat → Cursor → List Text.CodePoint → Except Fault (Text.Wording × Cursor)
  | 0, _, _ => .error quotedFault
  | n + 1, c, acc =>
    match quotedRun double (c.rest.length + 1) c acc with
    | .error e => .error e
    | .ok (acc, c) =>
      if c.peek = some (if double then Text.doubleQuote else Text.singleQuote) then
        .ok (.ofPoints acc.reverse, c.next)
      else match quotedGap c with
        | .error e => .error e
        | .ok (gap, c) => quotedFrom double n c ((gap.map .character).reverse ++ acc)

/-- Reads a quoted text. The cursor is in front of the opening quote. -/
def quoted (double : Bool) (c : Cursor) : Except Fault (Text.Wording × Cursor) :=
  quotedFrom double (c.rest.length + 1) c.next []

/-! ## Blocks -/

/-- The headline of a fault in the header of a block. -/
def blockFault : Fault := .malformed "while scanning a block scalar"

/-- What becomes of the line ends at the end of a block. -/
inductive Chomping
  | /-- The last line keeps its end. -/
    clip
  | /-- No line end is kept. -/
    strip
  | /-- All line ends are kept. -/
    keep
  deriving DecidableEq, Repr

/-- The chomping that a sign asks for. -/
def chompingOf? (c : Option Char) : Option Chomping :=
  if c = some '+' then some .keep else if c = some '-' then some .strip else none

/-- The indentation that a digit asks for. -/
def incrementOf? (c : Option Char) : Option Nat :=
  (c.filter Text.isAsciiDigit).map fun d => d.toNat - 48

/-- The header of a block: chomping and indentation in either order. -/
def blockHeader (c : Cursor) : Except Fault (Chomping × Option Nat × Cursor) :=
  let read : Chomping × Option Nat × Cursor :=
    match chompingOf? c.peek with
    | some chomping =>
      match incrementOf? c.next.peek with
      | some n => (chomping, some n, c.skip 2)
      | none => (chomping, none, c.next)
    | none =>
      match incrementOf? c.peek with
      | some n =>
        match chompingOf? c.next.peek with
        | some chomping => (chomping, some n, c.skip 2)
        | none => (.clip, some n, c.next)
      | none => (.clip, none, c)
  let (chomping, increment, c) := read
  if increment = some 0 || !endsField c.peek then .error blockFault
  else match c.restOfLine? with
    | none => .error blockFault
    | some c => .ok (chomping, increment, c)

/-- The empty lines in front of a block whose indentation is not told, for at most `n` characters,
and the greatest column of a space in them. -/
def blockLead : Nat → Cursor → List Char → Nat → List Char × Nat × Cursor
  | 0, c, acc, most => (acc.reverse, most, c)
  | n + 1, c, acc, most =>
    if c.peek = some ' ' then blockLead n c.next acc (max most c.next.column)
    else match c.lineBreak? with
      | none => (acc.reverse, most, c)
      | some (b, c) => blockLead n c (b :: acc) most

/-- The cursor behind spaces, but not beyond a column. -/
def toColumn (indent : Nat) (c : Cursor) : Cursor :=
  c.skip ((c.rest.take (indent - c.column)).takeWhile (· = ' ')).length

/-- The empty lines in front of the next line of a block, for at most `n` lines. -/
def blockBreaks (indent : Nat) : Nat → Cursor → List Char → List Char × Cursor
  | 0, c, acc => (acc.reverse, c)
  | n + 1, c, acc =>
    let c := toColumn indent c
    match c.lineBreak? with
    | none => (acc.reverse, c)
    | some (b, c) => blockBreaks indent n c (b :: acc)

/-- Reads the lines of a block, at most `n` of them. `ending` is the end of the line before, if
there was one, `solid` tells that the line before began with no blank, and `breaks` are the empty
lines since. -/
def blockLines (fold : Bool) (chomping : Chomping) (indent : Nat) :
    Nat → Cursor → Option Char → Bool → List Char → List Char × Cursor
  | 0, c, _, _, _ => ([], c)
  | n + 1, c, ending, solid, breaks =>
    if c.column = indent && !c.atEnd then
      let isSolid := !c.peek.any isGap
      let before := match ending with
        | none => breaks
        | some b =>
          (if fold && b = '\n' && solid && isSolid then (if breaks.isEmpty then [' '] else [])
            else [b]) ++ breaks
      let (line, c) := c.run (!isBreak ·)
      let (after, c) := match c.lineBreak? with
        | none => (none, c)
        | some (b, c) => (some b, c)
      let (empty, c) := blockBreaks indent (c.rest.length + 1) c []
      let (rest, c) := blockLines fold chomping indent n c after isSolid empty
      (before ++ line ++ rest, c)
    else
      let last := match chomping with
        | .strip => []
        | _ => ending.toList
      (last ++ (if chomping = .keep then breaks else []), c)

/-- Reads a block. The cursor is in front of the mark of its header, and `indent` is the column of
the collection around it. -/
def block (fold : Bool) (indent : Int) (c : Cursor) : Except Fault (List Char × Cursor) :=
  match blockHeader c.next with
  | .error e => .error e
  | .ok (chomping, increment, c) =>
    let least := max (indent + 1).toNat 1
    let (column, breaks, c) := match increment with
      | none =>
        let (breaks, most, c) := blockLead (c.rest.length + 1) c [] 0
        (max least most, breaks, c)
      | some n =>
        let column := least + n - 1
        let (breaks, c) := blockBreaks column (c.rest.length + 1) c []
        (column, breaks, c)
    .ok (blockLines fold chomping column (c.rest.length + 1) c none false breaks)

end GpuMetrics.Yaml
