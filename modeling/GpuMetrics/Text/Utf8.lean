/-!
# Reading UTF-8

Bytes as text. Where the bytes are no UTF-8, every longest stretch that could still have become a
character is replaced by one replacement character.
-/

namespace GpuMetrics.Text

/-- The character that stands for bytes that are no text. -/
def replacementChar : Char := '\uFFFD'

/-- What the first byte of a character promises: the number of bytes that follow it, and the bounds
of the first of them. A byte that cannot start a character promises nothing. -/
def lead? (b : Nat) : Option (Nat × Nat × Nat) :=
  if 0xC2 ≤ b && b ≤ 0xDF then some (1, 0x80, 0xBF)
  else if b = 0xE0 then some (2, 0xA0, 0xBF)
  else if b = 0xED then some (2, 0x80, 0x9F)
  else if 0xE1 ≤ b && b ≤ 0xEF then some (2, 0x80, 0xBF)
  else if b = 0xF0 then some (3, 0x90, 0xBF)
  else if 0xF1 ≤ b && b ≤ 0xF3 then some (3, 0x80, 0xBF)
  else if b = 0xF4 then some (3, 0x80, 0x8F)
  else none

/-- A character under construction: how many bytes are still to come, the bounds of the next one,
and the bits read so far. -/
structure Started where
  left : Nat
  low : Nat
  high : Nat
  bits : Nat

/-- Reads the first byte of a character: the character itself if it is ASCII, the start of a longer
one, or a replacement. -/
def startByte (b : Nat) : List Char × Option Started :=
  if b < 0x80 then ([Char.ofNat b], none)
  else match lead? b with
    | some (n, low, high) =>
      ([], some ⟨n, low, high, if n = 1 then b % 32 else if n = 2 then b % 16 else b % 8⟩)
    | none => ([replacementChar], none)

/-- The text of some bytes, given the character that the bytes before them have started. A started
character that is cut off by the end or by a byte out of bounds leaves one replacement. -/
def decodeFrom : Option Started → List Nat → List Char
  | none, [] => []
  | some _, [] => [replacementChar]
  | none, b :: r =>
    let (cs, next) := startByte b
    cs ++ decodeFrom next r
  | some p, b :: r =>
    if p.low ≤ b && b ≤ p.high then
      let bits := p.bits * 64 + b % 64
      if p.left = 1 then Char.ofNat bits :: decodeFrom none r
      else decodeFrom (some ⟨p.left - 1, 0x80, 0xBF, bits⟩) r
    else
      let (cs, next) := startByte b
      replacementChar :: cs ++ decodeFrom next r

/-- The text of some bytes, with a replacement for each longest stretch that is no UTF-8. -/
def decodeUtf8 (bytes : List UInt8) : String :=
  String.ofList (decodeFrom none (bytes.map UInt8.toNat))

/-- The text of some bytes, if all of them are UTF-8. -/
def decodeUtf8? (bytes : List UInt8) : Option String :=
  String.fromUTF8? ⟨bytes.toArray⟩

end GpuMetrics.Text
