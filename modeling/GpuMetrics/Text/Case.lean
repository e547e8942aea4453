import GpuMetrics.Text.Digit
import GpuMetrics.Text.CaseTable

/-!
# Small and capital letters

Full case mapping of texts. A character may become several, and the capital sigma at the end of a
word becomes its final form. ASCII letters are mapped without the tables.
-/

namespace GpuMetrics.Text

/-- The shift that the spans give for a code point, if one of them covers it. -/
def spanShift? (spans : List (Nat × Nat × Nat × Int)) (n : Nat) : Option Int :=
  (spans.find? fun (first, last, step, _) =>
    first ≤ n && n ≤ last && (n - first) % step == 0).map fun (_, _, _, shift) => shift

/-- The other case of one character, by a table of spans and one of longer forms. -/
def mapped (spans : List (Nat × Nat × Nat × Int)) (longer : List (Nat × List Nat)) (c : Char) :
    List Char :=
  match longer.find? fun e => e.1 == c.toNat with
  | some e => e.2.map Char.ofNat
  | none => match spanShift? spans c.toNat with
    | some shift => [Char.ofNat (c.toNat + shift).toNat]
    | none => [c]

/-- The small form of one character, wherever it stands. -/
def lowerChar (c : Char) : List Char :=
  if c.toNat < 128 then [c.toLower] else mapped lowerSpans lowerLonger c

/-- The capital form of one character. -/
def upperChar (c : Char) : List Char :=
  if c.toNat < 128 then [c.toUpper] else mapped upperSpans upperLonger c

/-- A character that has a case. -/
def isCased (c : Char) : Bool :=
  if c.toNat < 128 then c.isAlpha else inRanges casedRanges c

/-- A character that is passed over when the letter before or after a sigma is looked for. -/
def isCaseIgnorable (c : Char) : Bool :=
  if c.toNat < 128 then [39, 46, 58, 94, 96].contains c.toNat else inRanges caseIgnorableRanges c

/-- Whether the first character that counts has a case. -/
def startsCased (s : List Char) : Bool :=
  match s.dropWhile isCaseIgnorable with
  | [] => false
  | c :: _ => isCased c

/-- The capital sigma, whose small form depends on its place in the word. -/
def capitalSigma : Char := '\u03A3'

/-- The small form of a text; `afterCased` tells whether the last character before it that counts
has a case. -/
def lowerFrom (afterCased : Bool) : List Char → List Char
  | [] => []
  | c :: r =>
    let small :=
      if c = capitalSigma then
        [if afterCased && !startsCased r then '\u03C2' else '\u03C3']
      else lowerChar c
    small ++ lowerFrom (if isCaseIgnorable c then afterCased else isCased c) r

/-- The small form of a text. -/
def lower (s : List Char) : List Char := lowerFrom false s

/-- The capital form of a text. -/
def upper (s : List Char) : List Char := s.flatMap upperChar

/-- The small form of a string. -/
def lowered (s : String) : String := String.ofList (lower s.toList)

/-- The capital form of a string. -/
def uppered (s : String) : String := String.ofList (upper s.toList)

/-- A text of ASCII characters is mapped character by character. -/
theorem lowerFrom_ascii (b : Bool) (s : List Char) (h : ∀ c ∈ s, c.toNat < 128) :
    lowerFrom b s = s.map Char.toLower := by
  induction s generalizing b with
  | nil => rfl
  | cons c r ih =>
    have hc : c.toNat < 128 := h c (by simp)
    have hs : c ≠ capitalSigma := by
      intro e
      subst e
      exact absurd hc (by decide)
    simp [lowerFrom, hs, lowerChar, hc, ih _ fun d hd => h d (by simp [hd])]

end GpuMetrics.Text
