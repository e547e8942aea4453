import GpuMetrics.Text.Wording

/-!
# Encodings

An encoding writes some code points as bytes and has no bytes for the others. The first of the
others, with those that follow it at once, are named when a text cannot be written.
-/

namespace GpuMetrics.Text

/-- A way to write texts as bytes. -/
structure Encoding where
  name : String
  /-- Whether there are bytes for a code point. -/
  writes : CodePoint → Bool
  /-- Why there are none for the others. -/
  reason : String

namespace Encoding

/-- One byte for each character of ASCII. -/
def ascii : Encoding := ⟨"ascii", (·.code < 0x80), "ordinal not in range(128)"⟩

/-- One byte for each of the first 256 characters. -/
def latin1 : Encoding := ⟨"latin-1", (·.code < 0x100), "ordinal not in range(256)"⟩

/-- One to four bytes for every character. -/
def utf8 : Encoding := ⟨"utf-8", (·.char?.isSome), "surrogates not allowed"⟩

end Encoding

/-- The first code points of a text for which there are no bytes. -/
structure Unwritable where
  encoding : String
  reason : String
  /-- The number of code points in front of them. -/
  start : Nat
  run : List CodePoint
  deriving DecidableEq, Repr

/-- How a message names the fault. -/
def Unwritable.message (e : Unwritable) : String :=
  let shown := match e.run with
    | [p] => " '" ++ String.ofList p.escape ++ "' in position " ++ integerText e.start
    | run => "s in position " ++ integerText e.start ++ "-" ++
      integerText (e.start + run.length - 1 : Nat)
  "'" ++ e.encoding ++ "' codec can't encode character" ++ shown ++ ": " ++ e.reason

/-- Why an encoding cannot write some code points, if it cannot. -/
def Encoding.fault? (e : Encoding) (points : List CodePoint) : Option Unwritable :=
  match (points.dropWhile e.writes).takeWhile (!e.writes ·) with
  | [] => none
  | run => some ⟨e.name, e.reason, (points.takeWhile e.writes).length, run⟩

end GpuMetrics.Text
