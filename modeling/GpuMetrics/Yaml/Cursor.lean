/-!
# Places in a YAML text

A cursor is what is left of a text and how far the reading has come: the characters so far, the
line, and the column in it. A line ends at a line feed, a next-line character, or a line or
paragraph separator; other line ends are made line feeds before the reading. A byte order mark takes
no room in its line.
-/

namespace GpuMetrics.Yaml

/-! ## Characters -/

/-- A character that ends a line. -/
def isBreak (c : Char) : Bool :=
  c = '\n' || c.toNat = 0x85 || c.toNat = 0x2028 || c.toNat = 0x2029

/-- A space or a tab. -/
def isGap (c : Char) : Bool := c = ' ' || c = '\t'

/-- The mark of the byte order. -/
def byteOrderMark : Char := Char.ofNat 0xFEFF

/-- A character that may stand in a text. -/
def isPrintable (c : Char) : Bool :=
  let n := c.toNat
  n = 9 || n = 10 || n = 13 || (32 ≤ n && n ≤ 126) || n = 0x85 || (0xA0 ≤ n && n ≤ 0xD7FF)
    || (0xE000 ≤ n && n ≤ 0xFFFD) || 0x10000 ≤ n

/-- A letter or digit of ASCII, a hyphen or an underscore, as names are made of. -/
def isNameChar (c : Char) : Bool := c.isAlphanum || c = '-' || c = '_'

/-- Whether a line ends before what comes next. -/
def endsLine (c : Option Char) : Bool := c.all isBreak

/-- Whether a field of a line ends before what comes next: at a space or with the line. -/
def endsField (c : Option Char) : Bool := c.all fun c => c = ' ' || isBreak c

/-- Whether a word ends before what comes next: at a space, at a tab or with the line. -/
def endsWord (c : Option Char) : Bool := c.all fun c => isGap c || isBreak c

/-- A text in which every line ends with a line feed instead of a carriage return, with or without a
line feed behind it. -/
def withLineFeeds : List Char → List Char
  | [] => []
  | c :: r =>
    if c = '\r' then
      match r with
      | '\n' :: _ => withLineFeeds r
      | _ => '\n' :: withLineFeeds r
    else c :: withLineFeeds r

/-! ## Cursors -/

/-- What is left of a text, and how far the reading has come. -/
structure Cursor where
  rest : List Char
  /-- The number of characters so far. -/
  index : Nat
  line : Nat
  column : Nat

namespace Cursor

/-- The start of a text. -/
def start (s : List Char) : Cursor := ⟨s, 0, 0, 0⟩

/-- The next character, if there is one. -/
def peek (c : Cursor) : Option Char := c.rest.head?

/-- The character behind the next `n`, if there is one. -/
def peekAt (c : Cursor) (n : Nat) : Option Char := c.rest[n]?

/-- The cursor behind the next character. -/
def next (c : Cursor) : Cursor :=
  match c.rest with
  | [] => c
  | x :: r =>
    if isBreak x then ⟨r, c.index + 1, c.line + 1, 0⟩
    else ⟨r, c.index + 1, c.line, if x = byteOrderMark then c.column else c.column + 1⟩

/-- The cursor behind the next `n` characters. -/
def skip (c : Cursor) : Nat → Cursor
  | 0 => c
  | n + 1 => c.next.skip n

/-- The next characters of a class, and the cursor behind them. -/
def run (c : Cursor) (p : Char → Bool) : List Char × Cursor :=
  let word := c.rest.takeWhile p
  (word, c.skip word.length)

/-- Whether the text is at its end. -/
def atEnd (c : Cursor) : Bool := c.rest.isEmpty

/-- Whether the given characters come next and a word ends behind them. -/
def atWord (c : Cursor) (word : List Char) : Bool :=
  word.isPrefixOf c.rest && endsWord (c.peekAt word.length)

/-- The mark that starts a document. -/
def startMark : List Char := ['-', '-', '-']

/-- The mark that ends a document. -/
def endMark : List Char := ['.', '.', '.']

/-- Whether a document starts or ends here, if this is the start of a line. -/
def atMark (c : Cursor) : Bool := c.atWord startMark || c.atWord endMark

/-- The end of a line that comes next, as a text keeps it, and the cursor behind it. -/
def lineBreak? (c : Cursor) : Option (Char × Cursor) :=
  match c.peek with
  | none => none
  | some x =>
    if isBreak x then some (if x.toNat = 0x85 then '\n' else x, c.next) else none

/-- The cursor behind spaces, a comment, and the end of the line; nothing else may come before the
end of the line. -/
def restOfLine? (c : Cursor) : Option Cursor :=
  let c := (c.run (· = ' ')).2
  let c := if c.peek = some '#' then (c.run fun x => !isBreak x).2 else c
  if endsLine c.peek then some c.next else none

end Cursor

end GpuMetrics.Yaml
