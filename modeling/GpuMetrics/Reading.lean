import GpuMetrics.Decimal.Numeral
import GpuMetrics.Text.Case
import GpuMetrics.Text.Pieces
import GpuMetrics.Text.Quoted

/-!
# Readings

A cell of the tool's table as a number. A text that starts with `0x` is a bit mask and taken as it
is. A state word has a code. Any other text has to hold exactly one numeral, which is scaled by the
unit of its column. Texts are trimmed first, and small letters are as good as capital ones.
-/

namespace GpuMetrics.Reading

/-- Why a cell is no number: the reasons of a `ValueParseError`. The text is the cell as it was
looked at. -/
inductive Fault
  | /-- The text is no hexadecimal number. -/
    notHex (text : String)
  | /-- The hexadecimal number does not fit into 64 bits. -/
    hexTooLarge (text : String)
  | /-- The text does not hold exactly one numeral. -/
    notOneNumber (text : String)
  deriving DecidableEq, Repr

/-- How a message names the fault. -/
def Fault.message : Fault → String
  | .notHex t => "failed to parse hex value: " ++ Text.quoted t
  | .hexTooLarge t => "hex value out of range: " ++ Text.quoted t
  | .notOneNumber t => "could not parse number from value: " ++ Text.quoted t

/-! ## Bit masks -/

/-- The digits of a hexadecimal number, which may have `0x` or `0X` in front. -/
def hexDigits : List Char → List Char
  | '0' :: 'x' :: r => r
  | '0' :: 'X' :: r => r
  | r => r

/-- The first number that has no place in 64 bits. -/
def wordLimit : Nat := 0x10000000000000000

/-- The value of a hexadecimal number that has a place in 64 bits, with the checks of
`hex_to_decimal`. -/
def hexNat (text : String) : Except Fault Nat :=
  let digits := hexDigits text.toList
  if digits.isEmpty || !digits.all Text.isHex then .error (.notHex text)
  else
    let n := Text.valueIn 16 digits
    if n < wordLimit then .ok n else .error (.hexTooLarge text)

/-- The number that a hexadecimal text writes, as `hex_to_decimal` gives it. -/
def ofHex (text : String) : Except Fault Float :=
  (hexNat text).map fun n => Decimal.ofInt n

/-! ## State words -/

/-- The state words and their codes. -/
def stateCodes : List (List String × Float) := [
  (["enabled", "yes", "active"], 1.0),
  (["disabled", "no", "not active"], 0.0),
  (["default"], 0.0),
  (["exclusive_thread"], 1.0),
  (["prohibited"], 2.0),
  (["exclusive_process"], 3.0)]

/-- The code of a state word in small letters. -/
def stateCode? (word : String) : Option Float :=
  (stateCodes.find? fun e => e.1.contains word).map (·.2)

/-! ## Numerals in a text -/

/-- A numeral as it stands in a text. -/
structure Numeral where
  negative : Bool
  whole : List Char
  fraction : List Char
  deriving DecidableEq, Repr

/-- The number that a numeral writes. -/
def Numeral.value (n : Numeral) : Float :=
  Decimal.signed n.negative (Decimal.Number.ofDigits n.whole n.fraction).toFloat

/-- The digits at the front of a text, with a point and more digits if these follow; then the rest
of the text. The digits before a point may be missing, those after it may not. -/
def unsignedNumeral? (s : List Char) : Option ((List Char × List Char) × List Char) :=
  let whole := s.takeWhile Text.isDecimal
  let rest := s.dropWhile Text.isDecimal
  let plain := if whole.isEmpty then none else some ((whole, []), rest)
  match rest with
  | '.' :: r =>
    let fraction := r.takeWhile Text.isDecimal
    if fraction.isEmpty then plain else some ((whole, fraction), r.dropWhile Text.isDecimal)
  | _ => plain

/-- The numeral at the front of a text, and the rest of the text. -/
def numeral? (s : List Char) : Option (Numeral × List Char) :=
  match s with
  | '-' :: r => (unsignedNumeral? r).map fun (d, rest) => (⟨true, d.1, d.2⟩, rest)
  | '+' :: r => (unsignedNumeral? r).map fun (d, rest) => (⟨false, d.1, d.2⟩, rest)
  | r => (unsignedNumeral? r).map fun (d, rest) => (⟨false, d.1, d.2⟩, rest)

/-- What is dropped from the front makes a list no longer. -/
theorem length_dropWhile_le {α : Type} (p : α → Bool) (s : List α) :
    (s.dropWhile p).length ≤ s.length :=
  (List.dropWhile_suffix p).length_le

/-- Digits that are read off the front make the text shorter. -/
theorem length_of_unsignedNumeral? {s rest : List Char} {d : List Char × List Char}
    (h : unsignedNumeral? s = some (d, rest)) : rest.length < s.length := by
  have hsplit : (s.takeWhile Text.isDecimal).length + (s.dropWhile Text.isDecimal).length
      = s.length := by
    rw [← List.length_append, List.takeWhile_append_dropWhile]
  have hplain : ∀ {d' r'}, (if (s.takeWhile Text.isDecimal).isEmpty then none
      else some ((s.takeWhile Text.isDecimal, ([] : List Char)), s.dropWhile Text.isDecimal))
        = some (d', r') → r'.length < s.length := by
    intro d' r' hp
    split at hp
    · simp at hp
    · next hne =>
      simp only [Option.some.injEq, Prod.mk.injEq] at hp
      have : (s.takeWhile Text.isDecimal).length ≠ 0 := by
        simpa [List.isEmpty_iff] using hne
      have := hp.2 ▸ hsplit
      omega
  unfold unsignedNumeral? at h
  dsimp only at h
  split at h
  · next r hr =>
    split at h
    · exact hplain h
    · simp only [Option.some.injEq, Prod.mk.injEq] at h
      have hle := length_dropWhile_le Text.isDecimal r
      rw [h.2] at hle
      rw [hr] at hsplit
      simp only [List.length_cons] at hsplit
      omega
  · exact hplain h

/-- A numeral that is read off the front makes the text shorter. -/
theorem length_of_numeral? {s rest : List Char} {n : Numeral}
    (h : numeral? s = some (n, rest)) : rest.length < s.length := by
  unfold numeral? at h
  split at h <;>
    · obtain ⟨⟨d, r⟩, hd, he⟩ := Option.map_eq_some_iff.1 h
      simp only [Prod.mk.injEq] at he
      have := length_of_unsignedNumeral? hd
      simp only [List.length_cons] at *
      have := he.2
      subst this
      omega

/-- The numerals of a text from left to right. Each is as long as it can be, and the next one is
looked for behind it. -/
def numerals (s : List Char) : List Numeral :=
  match _h : numeral? s with
  | some (n, rest) => n :: numerals rest
  | none => match s with
    | [] => []
    | _ :: r => numerals r
termination_by s.length
decreasing_by
  · exact length_of_numeral? _h
  · simp

/-- There is no numeral in nothing. -/
theorem numerals_nil : numerals [] = [] := by
  rw [numerals]
  rfl

/-- A numeral at the front is the first one, and the others are those of the rest. -/
theorem numerals_of_numeral {s rest : List Char} {n : Numeral}
    (h : numeral? s = some (n, rest)) : numerals s = n :: numerals rest := by
  rw [numerals]
  split
  · next n' rest' h' =>
    rw [h] at h'
    cases h'
    rfl
  · next h' =>
    rw [h] at h'
    cases h'

/-- A character that no numeral begins with is skipped. -/
theorem numerals_of_other {c : Char} {r : List Char} (h : numeral? (c :: r) = none) :
    numerals (c :: r) = numerals r := by
  rw [numerals]
  split
  · next h' =>
    rw [h] at h'
    cases h'
  · rfl

/-- The number in a text that holds exactly one numeral, scaled: `_parse_with_best_effort`. -/
def onlyNumber (text : String) (multiplier : Float) : Except Fault Float :=
  match numerals text.toList with
  | [n] => .ok (n.value * multiplier)
  | _ => .error (.notOneNumber text)

/-! ## Cells -/

/-- The number that a cell holds, where `multiplier` belongs to the unit of its column. The tests
are made in the order in which `transform_raw_value` makes them. -/
def ofCell (raw : String) (multiplier : Float) : Except Fault Float :=
  let t := Text.trimmed raw
  if Text.startsWith "0x" t then ofHex t
  else
    let l := Text.lowered t
    match stateCode? l with
    | some code => .ok code
    | none => onlyNumber l multiplier

end GpuMetrics.Reading
