import GpuMetrics.Text.Digit
import GpuMetrics.Text.HiddenTable

/-!
# Texts quoted in messages

A message shows a text between quotes: single ones, unless the text holds a single quote and no
double one. A backslash and the quote in use are escaped, line feeds, returns and tabs have their
letters, and any other character without a visible form is written by its code point.
-/

namespace GpuMetrics.Text

/-- The single quote. -/
def singleQuote : Char := Char.ofNat 39

/-- The double quote. -/
def doubleQuote : Char := Char.ofNat 34

/-- A character that a message can show as it is. -/
def isVisible (c : Char) : Bool :=
  if c.toNat < 128 then 32 ≤ c.toNat && c.toNat ≤ 126 else !inRanges hiddenRanges c

/-- The escape of a character by its code point, as short as it can be. -/
def codeEscape (c : Char) : List Char :=
  let n := c.toNat
  if n < 0x100 then '\\' :: 'x' :: hexText 2 n
  else if n < 0x10000 then '\\' :: 'u' :: hexText 4 n
  else '\\' :: 'U' :: hexText 8 n

/-- How a character is shown between the given quotes. -/
def shownBetween (quote c : Char) : List Char :=
  if c = quote || c = '\\' then ['\\', c]
  else if c = '\n' then ['\\', 'n']
  else if c = '\r' then ['\\', 'r']
  else if c = '\t' then ['\\', 't']
  else if isVisible c then [c]
  else codeEscape c

/-- The quotes that a text is shown between. -/
def quoteFor (s : List Char) : Char :=
  if s.contains singleQuote && !s.contains doubleQuote then doubleQuote else singleQuote

/-- The text as a message shows it. -/
def quoted (s : String) : String :=
  let quote := quoteFor s.toList
  String.ofList (quote :: s.toList.flatMap (shownBetween quote) ++ [quote])

end GpuMetrics.Text
