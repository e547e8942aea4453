import GpuMetrics.Text.Blank
import GpuMetrics.Text.Quoted

/-!
# The tool's help text

The tool lists its fields in a help text. A field stands between double quotes at the start of a
line that follows an empty line, or a line of nothing but blanks; quotes anywhere else name no
field.
-/

namespace GpuMetrics.Field

/-- The name between double quotes at the front of a text, and the rest of the text. There is none
if the name is empty or the closing quote is missing. -/
def quotedName? : List Char → Option (List Char × List Char)
  | [] => none
  | q :: r =>
    if q = Text.doubleQuote then
      let name := r.takeWhile (· != Text.doubleQuote)
      match r.dropWhile (· != Text.doubleQuote) with
      | [] => none
      | _ :: rest => if name.isEmpty then none else some (name, rest)
    else none

/-- The name of a field behind the end of a line: blanks that end in another line end, and the name
between quotes. -/
def fieldAfterLine? (s : List Char) : Option (List Char × List Char) :=
  if (s.takeWhile Text.isBlank).getLast? = some '\n' then quotedName? (s.dropWhile Text.isBlank)
  else none

/-- A name that is read off the front makes the text shorter. -/
theorem length_of_quotedName? {s name rest : List Char}
    (h : quotedName? s = some (name, rest)) : rest.length < s.length := by
  unfold quotedName? at h
  split at h
  · simp at h
  · next q r =>
    split at h
    · dsimp only at h
      split at h
      · simp at h
      · next c rest' hr =>
        split at h
        · simp at h
        · simp only [Option.some.injEq, Prod.mk.injEq] at h
          have hle := (List.dropWhile_suffix (l := r) (· != Text.doubleQuote)).length_le
          rw [hr] at hle
          simp only [List.length_cons] at hle ⊢
          rw [← h.2]
          omega
    · simp at h

/-- A field that is read off the front makes the text shorter. -/
theorem length_of_fieldAfterLine? {s name rest : List Char}
    (h : fieldAfterLine? s = some (name, rest)) : rest.length < s.length := by
  unfold fieldAfterLine? at h
  split at h
  · have := length_of_quotedName? h
    have hle := (List.dropWhile_suffix (l := s) Text.isBlank).length_le
    omega
  · simp at h

/-- The fields of a help text from top to bottom. -/
def fieldsOfHelp (s : List Char) : List (List Char) :=
  match s with
  | [] => []
  | c :: r =>
    if c = '\n' then
      match _h : fieldAfterLine? r with
      | some (name, rest) => name :: fieldsOfHelp rest
      | none => fieldsOfHelp r
    else fieldsOfHelp r
termination_by s.length
decreasing_by
  · have := length_of_fieldAfterLine? _h
    simp only [List.length_cons]
    omega
  · simp
  · simp

/-- The fields that a help text lists: `extract_query_fields`. -/
def listedFields (help : String) : List String := (fieldsOfHelp help.toList).map String.ofList

end GpuMetrics.Field
