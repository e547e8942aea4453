import GpuMetrics.Document.Basic
import GpuMetrics.Text.Digit
import GpuMetrics.Text.LetterTable

/-!
# Placeholders

A text in a document can name variables of the surroundings. A placeholder is a dollar sign and a
name between braces, and is replaced by the value of the variable, or by nothing if there is no such
variable, as `_substitute_env_vars` does. What comes from a variable is not looked at again. Keys
and values that are no texts stay as they are. No surrogate stands in a placeholder, so that the
strings between surrogates are looked at by themselves.
-/

namespace GpuMetrics

/-- A letter or number of some script, or the underscore. -/
def Text.isWordChar (c : Char) : Bool :=
  if c.toNat < 128 then c.isAlphanum || c = '_' else inRanges letterRanges c

/-- The variables of the surroundings. A value is made of bytes, of which those that belong to no
character are surrogates. -/
abbrev Environment := Keyed String Text.Wording

namespace Environment

/-- The value of a variable; a variable that is not there has an empty value. -/
def value (env : Environment) (name : String) : Text.Wording := (Keyed.get? env name).getD ""

/-- The name in the placeholder that a text begins with, and the rest of the text. -/
def placeholder? : List Char → Option (List Char × List Char)
  | '$' :: '\x7b' :: r =>
    match r.dropWhile Text.isWordChar with
    | '\x7d' :: rest =>
      let name := r.takeWhile Text.isWordChar
      if name.isEmpty then none else some (name, rest)
    | _ => none
  | _ => none

/-- A placeholder that is read off the front makes the text shorter. -/
theorem length_of_placeholder? {s name rest : List Char}
    (h : placeholder? s = some (name, rest)) : rest.length < s.length := by
  unfold placeholder? at h
  split at h
  · next r =>
    split at h
    · next rest' hr =>
      dsimp only at h
      split at h
      · simp at h
      · simp only [Option.some.injEq, Prod.mk.injEq] at h
        have hle := (List.dropWhile_suffix (l := r) Text.isWordChar).length_le
        rw [hr] at hle
        simp only [List.length_cons] at hle ⊢
        rw [← h.2]
        omega
    · simp at h
  · simp at h

/-- What a text without surrogates becomes when its placeholders are replaced, from the left to the
right. -/
def expand (env : Environment) (s : List Char) : List Text.CodePoint :=
  match s with
  | [] => []
  | c :: r =>
    match _h : placeholder? (c :: r) with
    | some (name, rest) => (env.value (String.ofList name)).points ++ expand env rest
    | none => .character c :: expand env r
termination_by s.length
decreasing_by
  · exact length_of_placeholder? _h
  · simp

/-- A text with its placeholders replaced. -/
def expanded (env : Environment) (w : Text.Wording) : Text.Wording :=
  .ofPoints <| env.expand w.head.toList ++
    w.tail.flatMap fun (s, run) => .surrogate s :: env.expand run.toList

mutual

/-- A document with the placeholders in its texts replaced: `_substitute_env_vars`. -/
def substitute (env : Environment) : Document → Document
  | .text w => .text (env.expanded w)
  | .list items => .list (substituteItems env items)
  | .table entries => .table (substituteEntries env entries)
  | .null => .null
  | .flag b => .flag b
  | .integer i => .integer i
  | .number x => .number x
  | .bytes b => .bytes b
  | .foreign kind empty => .foreign kind empty

/-- The items of a list with their placeholders replaced. -/
def substituteItems (env : Environment) : List Document → List Document
  | [] => []
  | d :: r => substitute env d :: substituteItems env r

/-- The entries of a table with the placeholders in their values replaced. -/
def substituteEntries (env : Environment) : List (Key × Document) → List (Key × Document)
  | [] => []
  | (k, d) :: r => (k, substitute env d) :: substituteEntries env r

end

/-! ## Names -/

/-- The names in the placeholders of a text. -/
def namesIn (s : List Char) : List String :=
  match s with
  | [] => []
  | c :: r =>
    match _h : placeholder? (c :: r) with
    | some (name, rest) => String.ofList name :: namesIn rest
    | none => namesIn r
termination_by s.length
decreasing_by
  · exact length_of_placeholder? _h
  · simp

mutual

/-- The names in the placeholders of the texts of a document. -/
def namesOf : Document → List String
  | .text w => namesIn w.outline.toList
  | .list items => namesOfItems items
  | .table entries => namesOfEntries entries
  | .null => []
  | .flag _ => []
  | .integer _ => []
  | .number _ => []
  | .bytes _ => []
  | .foreign _ _ => []

/-- The names in the placeholders of the items of a list. -/
def namesOfItems : List Document → List String
  | [] => []
  | d :: r => namesOf d ++ namesOfItems r

/-- The names in the placeholders of the values of a table. -/
def namesOfEntries : List (Key × Document) → List String
  | [] => []
  | (_, d) :: r => namesOf d ++ namesOfEntries r

end

end Environment

end GpuMetrics
