import GpuMetrics.Keyed
import GpuMetrics.Yaml.Property
import GpuMetrics.Yaml.Scalar

/-!
# From a text to tokens

The tokens of a text are read from the left to the right. Two things make this more than a row of
words. Block collections have no marks of their own, so the columns in which the open ones stand are
kept, and a token further left ends those to its right. And a key is known only by the colon behind
it, so every token that may be a key leaves a gap in front of it, which a colon on the same line
fills. A fault ends the reading, and the tokens in front of it count up to the first gap that might
still be filled.
-/

namespace GpuMetrics.Yaml

/-- A place where a key may begin. -/
structure KeyPlace where
  /-- The number of the gap in front of the token. -/
  gap : Nat
  /-- Whether the token has to be a key because of its column. -/
  required : Bool
  index : Nat
  line : Nat
  column : Nat

/-- How far the reading of tokens has come. -/
structure Scan where
  /-- What is left of the text. -/
  cursor : Cursor
  /-- The tokens so far; a gap is a row of tokens that may still be empty. -/
  rows : Array (List Token)
  /-- The column of the innermost block collection; outside of all it is negative. -/
  indent : Int
  /-- The columns of the block collections around it. -/
  outer : List Int
  /-- The number of open brackets and braces; it is negative where too many have been closed. -/
  depth : Int
  /-- Whether a key may begin here. -/
  keyAllowed : Bool
  /-- For each number of open brackets the latest place where a key may begin. -/
  places : Keyed Int KeyPlace
  /-- Whether the text is at its end. -/
  done : Bool

namespace Scan

/-- The start of a text. -/
def start (s : List Char) : Scan := ⟨.start s, #[], -1, [], 0, true, [], false⟩

/-- Adds a token. -/
def push (s : Scan) (t : Token) : Scan := { s with rows := s.rows.push [t] }

/-- Whether this is inside of brackets. -/
def inFlow (s : Scan) : Bool := s.depth ≠ 0

/-- The column of what comes next. -/
def column (s : Scan) : Int := s.cursor.column

/-! ## Keys -/

/-- The fault of a key without its colon. -/
def keyFault : Fault := scanFault "a simple key"

/-- Whether a place is too far back for a key: on another line, or over a thousand characters. -/
def isStale (s : Scan) (p : KeyPlace) : Bool :=
  p.line ≠ s.cursor.line || s.cursor.index - p.index > 1024

/-- Forgets the places that are too far back. -/
def dropStale (s : Scan) : Except Fault Scan :=
  if s.places.any fun e => s.isStale e.2 && e.2.required then .error keyFault
  else .ok { s with places := s.places.filter fun e => !s.isStale e.2 }

/-- Forgets the place among the open brackets. -/
def dropPlace (s : Scan) : Except Fault Scan :=
  match Keyed.get? s.places s.depth with
  | none => .ok s
  | some p =>
    if p.required then .error keyFault
    else .ok { s with places := s.places.filter fun e => e.1 ≠ s.depth }

/-- Leaves a gap in front of a token that may be a key. -/
def savePlace (s : Scan) : Except Fault Scan :=
  if s.keyAllowed then
    s.dropPlace.map fun s =>
      let p : KeyPlace := ⟨s.rows.size, !s.inFlow && s.indent = s.column, s.cursor.index,
        s.cursor.line, s.cursor.column⟩
      { s with rows := s.rows.push [], places := Keyed.put s.places s.depth p }
  else .ok s

/-! ## Columns -/

/-- Leaves the block collections that stand further right than a column. `n` is the number of them
at most. -/
def unwindFrom : Nat → Int → Scan → Scan
  | 0, _, s => s
  | n + 1, column, s =>
    if s.indent > column then
      match s.outer with
      | [] => s
      | i :: outer => unwindFrom n column ({ s with indent := i, outer := outer }.push .blockEnd)
    else s

/-- Leaves the block collections that stand further right than a column, unless in brackets. -/
def unwind (column : Int) (s : Scan) : Scan :=
  if s.inFlow then s else unwindFrom s.outer.length column s

/-- Enters a block collection at a column, if it stands further right than the innermost one. -/
def enter? (s : Scan) (column : Int) : Option Scan :=
  if s.indent < column then some { s with indent := column, outer := s.indent :: s.outer } else none

/-! ## Between tokens -/

/-- The cursor behind spaces, comments and ends of lines, at most `n` lines, and whether a line
ended. -/
def blankLines : Nat → Cursor → Bool → Cursor × Bool
  | 0, c, broken => (c, broken)
  | n + 1, c, broken =>
    let c := (c.run (· = ' ')).2
    let c := if c.peek = some '#' then (c.run (!isBreak ·)).2 else c
    match c.lineBreak? with
    | none => (c, broken)
    | some (_, c) => blankLines n c true

/-- Goes on to the next token. -/
def toToken (s : Scan) : Scan :=
  let c := s.cursor
  let c := if c.index = 0 && c.peek = some byteOrderMark then c.next else c
  let (c, broken) := blankLines (c.rest.length + 1) c false
  { s with cursor := c, keyAllowed := s.keyAllowed || (broken && !s.inFlow) }

/-! ## Tokens -/

/-- Ends the text. -/
def finish (s : Scan) : Except Fault Scan :=
  (unwind (-1) s).dropPlace.map fun s =>
    { s.push .streamEnd with keyAllowed := false, places := [], done := true }

/-- Reads a directive. -/
def takeDirective (s : Scan) : Except Fault Scan :=
  (unwind (-1) s).dropPlace.bind fun s =>
    (directive s.cursor).map fun (t, c) => { s.push t with cursor := c, keyAllowed := false }

/-- Reads the start or the end of a document. -/
def takeMark (t : Token) (s : Scan) : Except Fault Scan :=
  (unwind (-1) s).dropPlace.map fun s =>
    { s.push t with cursor := s.cursor.skip 3, keyAllowed := false }

/-- Reads an opening bracket, which may itself begin a key. -/
def takeOpening (t : Token) (s : Scan) : Except Fault Scan :=
  s.savePlace.map fun s =>
    { s.push t with cursor := s.cursor.next, depth := s.depth + 1, keyAllowed := true }

/-- Reads a closing bracket. -/
def takeClosing (t : Token) (s : Scan) : Except Fault Scan :=
  s.dropPlace.map fun s =>
    { s.push t with cursor := s.cursor.next, depth := s.depth - 1, keyAllowed := false }

/-- Reads the comma between items. -/
def takeComma (s : Scan) : Except Fault Scan :=
  s.dropPlace.map fun s => { s.push .flowEntry with cursor := s.cursor.next, keyAllowed := true }

/-- Begins a block collection at this column, if there is none. -/
def beginBlock (t : Token) (fault : String) (s : Scan) : Except Fault Scan :=
  if s.inFlow then .ok s
  else if !s.keyAllowed then .error (.malformed fault)
  else match s.enter? s.column with
    | some s => .ok (s.push t)
    | none => .ok s

/-- Reads the hyphen in front of an item. -/
def takeHyphen (s : Scan) : Except Fault Scan :=
  (s.beginBlock .blockSequenceStart "sequence entries are not allowed here").bind fun s =>
    s.dropPlace.map fun s =>
      { s.push .blockEntry with cursor := s.cursor.next, keyAllowed := true }

/-- Reads the question mark in front of a key. -/
def takeQuestion (s : Scan) : Except Fault Scan :=
  (s.beginBlock .blockMappingStart "mapping keys are not allowed here").bind fun s =>
    s.dropPlace.map fun s =>
      { s.push .key with cursor := s.cursor.next, keyAllowed := !s.inFlow }

/-- Reads the colon in front of a value. If a place for a key is known, the key and perhaps the
start of its table go into the gap there. -/
def takeColon (s : Scan) : Except Fault Scan :=
  match Keyed.get? s.places s.depth with
  | some p =>
    let s := { s with places := s.places.filter fun e => e.1 ≠ s.depth }
    let (row, s) :=
      match if s.inFlow then none else s.enter? p.column with
      | some s => ([Token.blockMappingStart, .key], s)
      | none => ([Token.key], s)
    .ok { s with
      rows := (s.rows.setIfInBounds p.gap row).push [.value]
      cursor := s.cursor.next
      keyAllowed := false }
  | none =>
    (s.beginBlock .blockMappingStart "mapping values are not allowed here").bind fun s =>
      s.dropPlace.map fun s =>
        { s.push .value with cursor := s.cursor.next, keyAllowed := !s.inFlow }

/-- Reads a token that may be a key and after which no key begins. -/
def takeWith (read : Cursor → Except Fault (Token × Cursor)) (s : Scan) : Except Fault Scan :=
  s.savePlace.bind fun s =>
    (read s.cursor).map fun (t, c) => { s.push t with cursor := c, keyAllowed := false }

/-- Reads the name of a node that stands elsewhere. -/
def readAlias (c : Cursor) : Except Fault (Token × Cursor) :=
  (nodeName "an alias" c).map fun (name, c) => (.reference name, c)

/-- Reads a name for the next node. -/
def readAnchor (c : Cursor) : Except Fault (Token × Cursor) :=
  (nodeName "an anchor" c).map fun (name, c) => (.anchor name, c)

/-- Reads a text between quotes. -/
def readQuoted (double : Bool) (c : Cursor) : Except Fault (Token × Cursor) :=
  (quoted double c).map fun (text, c) => (.scalar text false, c)

/-- Reads a block. A key may begin behind it. -/
def takeBlock (fold : Bool) (s : Scan) : Except Fault Scan :=
  s.dropPlace.bind fun s =>
    (block fold s.indent s.cursor).map fun (text, c) =>
      { s.push (.scalar (String.ofList text) false) with cursor := c, keyAllowed := true }

/-- Reads a text without quotes. A key may begin behind it if it ends with its line. -/
def takePlain (s : Scan) : Except Fault Scan :=
  s.savePlace.map fun s =>
    let p := plain s.inFlow (s.indent + 1) s.cursor
    { s.push (.scalar (String.ofList p.text) true) with
      cursor := p.cursor
      keyAllowed := p.broken }

/-- A character that no text without quotes begins with, unless it is a hyphen, a question mark or
a colon with a word behind it. -/
def isIndicator (c : Char) : Bool :=
  "-?:,[]\x7b\x7d#&*!|>%@\x60".toList.contains c || c = Text.singleQuote || c = Text.doubleQuote

/-- Whether a text without quotes begins with a character. -/
def startsPlain (inFlow : Bool) (x : Char) (next : Option Char) : Bool :=
  !(endsWord (some x) || isIndicator x)
    || (!endsWord next && (x = '-' || (!inFlow && (x = '?' || x = ':'))))

/-- Reads the token that begins with a character; `next` comes behind it. -/
def takeToken (s : Scan) (x : Char) (next : Option Char) : Except Fault Scan :=
  let c := s.cursor
  let atStart := c.column = 0
  if x = '%' && atStart then s.takeDirective
  else if atStart && c.atWord Cursor.startMark then s.takeMark .documentStart
  else if atStart && c.atWord Cursor.endMark then s.takeMark .documentEnd
  else if x = '[' then s.takeOpening .flowSequenceStart
  else if x = '\x7b' then s.takeOpening .flowMappingStart
  else if x = ']' then s.takeClosing .flowSequenceEnd
  else if x = '\x7d' then s.takeClosing .flowMappingEnd
  else if x = ',' then s.takeComma
  else if x = '-' && endsWord next then s.takeHyphen
  else if x = '?' && (s.inFlow || endsWord next) then s.takeQuestion
  else if x = ':' && (s.inFlow || endsWord next) then s.takeColon
  else if x = '*' then s.takeWith readAlias
  else if x = '&' then s.takeWith readAnchor
  else if x = '!' then s.takeWith tag
  else if x = '|' && !s.inFlow then s.takeBlock false
  else if x = '>' && !s.inFlow then s.takeBlock true
  else if x = Text.singleQuote then s.takeWith (readQuoted false)
  else if x = Text.doubleQuote then s.takeWith (readQuoted true)
  else if startsPlain s.inFlow x next then s.takePlain
  else .error (scanFault "for the next token")

/-- Reads the next token. -/
def step (s : Scan) : Except Fault Scan :=
  s.toToken.dropStale.bind fun s =>
    let s := unwind s.column s
    match s.cursor.peek with
    | none => s.finish
    | some x => (s.takeToken x (s.cursor.peekAt 1)).bind dropStale

/-- The tokens that no colon can change any more. -/
def settled (s : Scan) : List Token :=
  let gaps := s.places.map fun e => e.2.gap
  (s.rows.toList.take (gaps.foldl min s.rows.size)).flatten

end Scan

/-! ## Stretches -/

/-- The number of characters that are looked at before the first token is read. -/
def firstStretch : Nat := 0x2000

/-- The number of characters that are looked at together later on. -/
def stretch : Nat := 0x1000

/-- The start of the stretch that a character belongs to. -/
def stretchStart (index : Nat) : Nat :=
  if index < firstStretch then 0
  else firstStretch + (index - firstStretch) / stretch * stretch

/-- The first character that may not stand in a text: where its stretch starts, and the fault. -/
def badStretch? (s : List Char) : Option (Nat × Fault) :=
  match s.dropWhile isPrintable with
  | [] => none
  | c :: r => some (stretchStart (s.length - (c :: r).length), .character c.toNat)

/-- The text up to a character, with something else behind it. -/
def Scan.upTo (stop : Nat) (ending : List Char) (s : Scan) : Scan :=
  let ahead := s.cursor.rest.take (stop - s.cursor.index)
  { s with cursor := { s.cursor with rest := ahead ++ ending } }

/-- Ways in which a text can go on: it ends, or a quote is closed. -/
def endings : List (List Char) := [[], [Text.singleQuote], [Text.doubleQuote]]

/-- Whether the next token has a fault in the text up to a character, whatever follows there. -/
def Scan.faultsBefore (stop : Nat) (fault : Fault) (s : Scan) : Bool :=
  endings.all fun ending =>
    match (s.upTo stop ending).step with
    | .ok _ => false
    | .error f => f = fault

/-- Reads the next token in front of a bad stretch. A token that reaches into the stretch has the
fault of the stretch; one that has a fault of its own in front of the stretch has that one. -/
def Scan.stepBefore (bad : Option (Nat × Fault)) (s : Scan) : Except Fault Scan :=
  match bad, s.step with
  | none, r => r
  | some (stop, fault), .ok r => if r.cursor.index < stop then .ok r else .error fault
  | some (stop, fault), .error e => .error (if s.faultsBefore stop e then e else fault)

/-! ## Tokens of a text -/

/-- The tokens of a text up to its first fault. -/
structure Tokens where
  list : List Token
  fault : Option Fault

/-- Reads at most `n` tokens. -/
def Tokens.collect (bad : Option (Nat × Fault)) : Nat → Scan → Tokens
  | 0, s => ⟨s.settled, none⟩
  | n + 1, s =>
    if s.done then ⟨s.settled, none⟩
    else match s.stepBefore bad with
      | .ok s => collect bad n s
      | .error e => ⟨s.settled, some e⟩

/-- The tokens of a text. Every token takes a character, and one more ends the text. -/
def tokens (s : List Char) : Tokens :=
  match badStretch? s with
  | some (0, fault) => ⟨[], some fault⟩
  | bad => Tokens.collect bad (s.length + 2) (Scan.start s)

end GpuMetrics.Yaml
