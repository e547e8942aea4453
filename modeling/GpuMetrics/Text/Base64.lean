import GpuMetrics.Text.Encoding

/-!
# Bytes in sixty-four letters

Four letters stand for three bytes, and equals signs fill up the last four. Characters of ASCII that
are none of the letters are passed over.
-/

namespace GpuMetrics.Text.Base64

/-- Why a text stands for no bytes. -/
inductive Fault
  | /-- The text has characters beyond ASCII. -/
    foreign (fault : Unwritable)
  | /-- One letter of four is there; `letters` is the number of all letters. -/
    single (letters : Nat)
  | /-- Two or three letters of four are there, and too few equals signs. -/
    unfilled
  deriving DecidableEq, Repr

/-- How a message names the fault. -/
def Fault.message : Fault → String
  | foreign e => "failed to convert base64 data into ascii: " ++ e.message
  | single letters =>
    "failed to decode base64 data: Invalid base64-encoded string: number of data characters ("
      ++ integerText letters ++ ") cannot be 1 more than a multiple of 4"
  | unfilled => "failed to decode base64 data: Incorrect padding"

/-- The value of a letter. -/
def value? (c : Char) : Option Nat :=
  let n := c.toNat
  if 65 ≤ n && n ≤ 90 then some (n - 65)
  else if 97 ≤ n && n ≤ 122 then some (n - 71)
  else if 48 ≤ n && n ≤ 57 then some (n + 4)
  else if c = '+' then some 62
  else if c = '/' then some 63
  else none

/-- The byte that a letter completes: `before` is the value of the letter before it, and `place` the
number of letters before it among its four. -/
def byteOf (place before value : Nat) : List UInt8 :=
  match place with
  | 0 => []
  | 1 => [UInt8.ofNat (before * 4 + value / 16)]
  | 2 => [UInt8.ofNat (before % 16 * 16 + value / 4)]
  | _ => [UInt8.ofNat (before % 4 * 64 + value)]

/-- The bytes of a text, read on from the letter at a place among four. `before` is the value of the
letter before, `fill` the number of equals signs since, and `letters` the number of letters so
far. -/
def bytesFrom (place before fill letters : Nat) : List Char → Except Fault (List UInt8)
  | [] =>
    if place = 0 then .ok []
    else if place = 1 then .error (.single letters)
    else .error .unfilled
  | c :: r =>
    if c = '=' then
      if 2 ≤ place && 4 ≤ place + fill + 1 then .ok []
      else bytesFrom place before (if 2 ≤ place then fill + 1 else fill) letters r
    else match value? c with
      | none => bytesFrom place before fill letters r
      | some v =>
        (bytesFrom ((place + 1) % 4) v 0 (letters + 1) r).map (byteOf place before v ++ ·)

/-- The bytes that a text stands for. -/
def bytes (w : Wording) : Except Fault (List UInt8) :=
  match Encoding.ascii.fault? w.points with
  | some e => .error (.foreign e)
  | none => bytesFrom 0 0 0 0 w.outline.toList

end GpuMetrics.Text.Base64
