import GpuMetrics.Text.Quoted

/-!
# Words of a shell command line

A command line is cut into words at spaces, tabs and line ends. Between single quotes every
character stands for itself; between double quotes a backslash escapes a double quote or a
backslash and is itself anywhere else; outside quotes a backslash makes the next character part of
the word, whatever it is. Quotes that hold nothing make an empty word. There are no comments.
-/

namespace GpuMetrics.Text.ShellWords

/-- Why a command line cannot be cut into words. -/
inductive Fault
  | /-- A quote is opened and not closed. -/
    openQuote
  | /-- The line ends in a backslash that escapes nothing. -/
    openEscape
  deriving DecidableEq, Repr

/-- How a message names the fault. -/
def Fault.message : Fault → String
  | .openQuote => "No closing quotation"
  | .openEscape => "No escaped character"

/-- Where in a command line the reader stands. -/
inductive Place
  | /-- Outside quotes. -/
    bare
  | /-- Between single quotes. -/
    single
  | /-- Between double quotes. -/
    double
  | /-- After a backslash outside quotes. -/
    bareEscape
  | /-- After a backslash between double quotes. -/
    doubleEscape
  deriving DecidableEq, Repr

/-- A character that separates words. -/
def isSeparator (c : Char) : Bool := c = ' ' || c = '\t' || c = '\r' || c = '\n'

/-- Puts a finished word, if there is one, in front of the words after it. A word is built
backwards. -/
def close (word : Option (List Char)) (words : List (List Char)) : List (List Char) :=
  match word with
  | none => words
  | some w => w.reverse :: words

/-- A word with one more character; a word that has not begun begins with it. -/
def extend (word : Option (List Char)) (c : Char) : Option (List Char) :=
  some (c :: word.getD [])

/-- The words of the rest of a line, given the place and the word begun so far. -/
def wordsFrom : Place → Option (List Char) → List Char → Except Fault (List (List Char))
  | .bare, word, [] => .ok (close word [])
  | .single, _, [] => .error .openQuote
  | .double, _, [] => .error .openQuote
  | .bareEscape, _, [] => .error .openEscape
  | .doubleEscape, _, [] => .error .openEscape
  | .bare, word, c :: r =>
    if isSeparator c then (wordsFrom .bare none r).map (close word)
    else if c = singleQuote then wordsFrom .single (some (word.getD [])) r
    else if c = doubleQuote then wordsFrom .double (some (word.getD [])) r
    else if c = '\\' then wordsFrom .bareEscape (some (word.getD [])) r
    else wordsFrom .bare (extend word c) r
  | .single, word, c :: r =>
    if c = singleQuote then wordsFrom .bare word r else wordsFrom .single (extend word c) r
  | .double, word, c :: r =>
    if c = doubleQuote then wordsFrom .bare word r
    else if c = '\\' then wordsFrom .doubleEscape word r
    else wordsFrom .double (extend word c) r
  | .bareEscape, word, c :: r => wordsFrom .bare (extend word c) r
  | .doubleEscape, word, c :: r =>
    if c = doubleQuote || c = '\\' then wordsFrom .double (extend word c) r
    else wordsFrom .double (extend (extend word '\\') c) r

/-- The words of a command line, as `shlex.split` cuts it. -/
def words (line : String) : Except Fault (List String) :=
  (wordsFrom .bare none line.toList).map (·.map String.ofList)

end GpuMetrics.Text.ShellWords
