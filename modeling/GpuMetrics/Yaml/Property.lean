import GpuMetrics.Text.Digit
import GpuMetrics.Text.Pieces
import GpuMetrics.Text.Utf8
import GpuMetrics.Text.Whole
import GpuMetrics.Yaml.Cursor
import GpuMetrics.Yaml.Token

/-!
# Names, tags and directives

What is said of a node in front of it: a name under which it can be used again, and a tag that tells
its kind. A tag can have a handle, whose meaning is told by a directive in front of the document.
-/

namespace GpuMetrics.Yaml

/-- The fault of something that is scanned. -/
def scanFault (what : String) : Fault := .malformed ("while scanning " ++ what)

/-- The fault of something that is parsed. -/
def parseFault (what : String) : Fault := .malformed ("while parsing " ++ what)

/-! ## Names -/

/-- Whether the name of a node can end before what comes next. -/
def endsName (c : Option Char) : Bool := endsWord c || c.any ("?:,]\x7d%@\x60".toList.contains ·)

/-- Reads the name of a node behind its mark. -/
def nodeName (what : String) (c : Cursor) : Except Fault (String × Cursor) :=
  let (name, c) := c.next.run isNameChar
  if name.isEmpty || !endsName c.peek then .error (scanFault what)
  else .ok (String.ofList name, c)

/-! ## Tags -/

/-- A character of a tag. -/
def isTagChar (c : Char) : Bool :=
  c.isAlphanum || "-;/?:@&=+$,_.!~*()[]%".toList.contains c || c.toNat = 39

/-- The bytes of escapes that come next, at most `n` of them, and the cursor behind them. -/
def escapedBytes : Nat → Cursor → Option (List UInt8 × Cursor)
  | 0, c => some ([], c)
  | n + 1, c =>
    if c.peek = some '%' then
      let digits := (c.next.rest.take 2).takeWhile Text.isHex
      if digits.length < 2 then none
      else (escapedBytes n (c.skip 3)).map fun (bytes, c) =>
        (UInt8.ofNat (Text.valueIn 16 digits) :: bytes, c)
    else some ([], c)

/-- Reads the characters of a tag, at most `n` stretches of them. -/
def tagText (what : String) : Nat → Cursor → Except Fault (List Char × Cursor)
  | 0, c => .ok ([], c)
  | n + 1, c =>
    if c.peek = some '%' then
      match escapedBytes (c.rest.length + 1) c with
      | none => .error (scanFault what)
      | some (bytes, c) =>
        match Text.decodeUtf8? bytes with
        | none => .error (scanFault what)
        | some s => (tagText what n c).map fun (rest, c) => (s.toList ++ rest, c)
    else
      let (word, c) := c.run fun x => isTagChar x && x ≠ '%'
      if word.isEmpty then .ok ([], c)
      else (tagText what n c).map fun (rest, c) => (word ++ rest, c)

/-- Reads the characters of a tag, of which there has to be one. -/
def tagSuffix (what : String) (c : Cursor) : Except Fault (String × Cursor) :=
  match tagText what (c.rest.length + 1) c with
  | .error e => .error e
  | .ok ([], _) =>
    .error (parseFault what)
  | .ok (s, c) => .ok (String.ofList s, c)

/-- Reads a handle: an exclamation mark, or a name between two of them. -/
def tagHandle (what : String) (c : Cursor) : Except Fault (String × Cursor) :=
  if c.peek ≠ some '!' then .error (scanFault what)
  else if c.peekAt 1 = some ' ' then .ok ("!", c.next)
  else
    let (name, c) := c.next.run isNameChar
    if c.peek = some '!' then .ok (String.ofList ('!' :: name ++ ['!']), c.next)
    else .error (scanFault what)

/-- Whether a tag has a handle with a name: another exclamation mark comes before its end. -/
def hasHandle (c : Cursor) : Bool :=
  (c.next.rest.takeWhile fun x => !endsField (some x)).contains '!'

/-- Reads a tag. -/
def tag (c : Cursor) : Except Fault (Token × Cursor) :=
  let what := "a tag"
  let read : Except Fault (Token × Cursor) :=
    if c.peekAt 1 = some '<' then
      match tagSuffix what (c.skip 2) with
      | .error e => .error e
      | .ok (s, c) =>
        if c.peek = some '>' then .ok (.tag none s, c.next) else .error (parseFault what)
    else if endsWord (c.peekAt 1) then .ok (.tag none "!", c.next)
    else if hasHandle c then
      match tagHandle what c with
      | .error e => .error e
      | .ok (handle, c) => (tagSuffix what c).map fun (s, c) => (.tag (some handle) s, c)
    else (tagSuffix what c.next).map fun (s, c) => (.tag (some "!") s, c)
  match read with
  | .error e => .error e
  | .ok (t, c) => if endsField c.peek then .ok (t, c) else .error (scanFault what)

/-! ## Directives -/

/-- The fault of a directive. -/
def directiveFault : Fault := scanFault "a directive"

/-- The cursor behind spaces. -/
def behindSpaces (c : Cursor) : Cursor := (c.run (· = ' ')).2

/-- Reads a number of a version. -/
def versionNumber (c : Cursor) : Except Fault (Nat × Cursor) :=
  let (digits, c) := c.run Text.isAsciiDigit
  if digits.isEmpty then .error directiveFault
  else match Text.Whole.read 10 digits with
    | .error e => .error (.badValue e.message)
    | .ok n => .ok (n.toNat, c)

/-- Reads a version. -/
def version (c : Cursor) : Except Fault (Directive × Cursor) :=
  match versionNumber (behindSpaces c) with
  | .error e => .error e
  | .ok (major, c) =>
    if c.peek ≠ some '.' then .error directiveFault
    else match versionNumber c.next with
      | .error e => .error e
      | .ok (minor, c) =>
        if endsField c.peek then .ok (.version major minor, c) else .error directiveFault

/-- Reads a handle and what it stands for. -/
def handle (c : Cursor) : Except Fault (Directive × Cursor) :=
  match tagHandle "a directive" (behindSpaces c) with
  | .error e => .error e
  | .ok (name, c) =>
    if c.peek ≠ some ' ' then .error directiveFault
    else match tagSuffix "a directive" (behindSpaces c) with
      | .error e => .error e
      | .ok (stands, c) =>
        if endsField c.peek then .ok (.handle name stands, c) else .error directiveFault

/-- Reads a directive to the end of its line. -/
def directive (c : Cursor) : Except Fault (Token × Cursor) :=
  let (name, c) := c.next.run isNameChar
  if name.isEmpty || !endsField c.peek then .error directiveFault
  else
    let read : Except Fault (Directive × Cursor) :=
      if name = "YAML".toList then version c
      else if name = "TAG".toList then handle c
      else .ok (.other, (c.run (!isBreak ·)).2)
    match read with
    | .error e => .error e
    | .ok (d, c) =>
      match c.restOfLine? with
      | none => .error directiveFault
      | some c => .ok (.directive d, c)

end GpuMetrics.Yaml
