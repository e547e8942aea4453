/-!
# Blanks and trimming

Which characters are blank, and a text without the blanks at its ends. Blank means white space of
any script, the four information separators of ASCII included; a zero-width space and a byte order
mark are no blanks. Around numbers the information separators are no white space either.
-/

namespace GpuMetrics.Text

/-- A character that takes room and shows nothing: white space and the information separators. -/
def isBlank (c : Char) : Bool :=
  let n := c.toNat
  (9 ≤ n && n ≤ 13) || (28 ≤ n && n ≤ 32) || n == 0x85 || n == 0xA0 || n == 0x1680
    || (0x2000 ≤ n && n ≤ 0x200A) || n == 0x2028 || n == 0x2029 || n == 0x202F || n == 0x205F
    || n == 0x3000

/-- The text without the blanks it starts with. -/
def trimLeft (s : List Char) : List Char := s.dropWhile isBlank

/-- The text without the blanks it ends with. -/
def trimRight (s : List Char) : List Char := (s.reverse.dropWhile isBlank).reverse

/-- The text without the blanks at its two ends. -/
def trim (s : List Char) : List Char := trimRight (trimLeft s)

/-- Whether the text holds nothing but blanks. -/
def allBlank (s : List Char) : Bool := s.all isBlank

/-- The text without the blanks at its two ends. -/
def trimmed (s : String) : String := String.ofList (trim s.toList)

/-! ## Around numbers -/

/-- White space around a number: a blank that is none of the information separators. -/
def isSpace (c : Char) : Bool := isBlank c && !(28 ≤ c.toNat && c.toNat ≤ 31)

/-- The text without the white space around a number. -/
def trimSpace (s : List Char) : List Char :=
  ((s.dropWhile isSpace).reverse.dropWhile isSpace).reverse

/-- Nothing is trimmed from nothing. -/
@[simp] theorem trim_nil : trim [] = [] := rfl

end GpuMetrics.Text
