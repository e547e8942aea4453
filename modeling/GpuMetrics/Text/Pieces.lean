/-!
# Cutting at a separator and joining again

`pieces sep s` are the stretches of `s` between occurrences of `sep`, so that a text always has one
piece more than it has separators. `joined` puts a separator between texts.
-/

namespace GpuMetrics.Text

/-- The stretches of a text between the occurrences of `sep`; a text without one is one piece. -/
def pieces {α : Type} [DecidableEq α] (sep : α) : List α → List (List α)
  | [] => [[]]
  | c :: r =>
    if c = sep then [] :: pieces sep r
    else match pieces sep r with
      | [] => [[c]]
      | p :: ps => (c :: p) :: ps

/-- The pieces of a string. -/
def piecesOf (sep : Char) (s : String) : List String :=
  (pieces sep s.toList).map String.ofList

/-- The texts one after the other, with `sep` between each two. -/
def joined (sep : String) (parts : List String) : String := String.intercalate sep parts

/-- No text has zero pieces. -/
theorem pieces_ne_nil {α : Type} [DecidableEq α] (sep : α) (s : List α) : pieces sep s ≠ [] := by
  cases s with
  | nil => simp [pieces]
  | cons c r =>
    unfold pieces
    split
    · simp
    · split <;> simp

/-- A text has one piece more than it has separators. -/
theorem length_pieces {α : Type} [DecidableEq α] (sep : α) (s : List α) :
    (pieces sep s).length = s.count sep + 1 := by
  induction s with
  | nil => rfl
  | cons c r ih =>
    unfold pieces
    split
    · next h => simp [h, ih]
    · next h =>
      have hne := pieces_ne_nil sep r
      cases hp : pieces sep r with
      | nil => exact absurd hp hne
      | cons p ps => simp_all

/-- The first occurrence of `sep` cuts the text in two; without one there is no second part. -/
def cutFirst (sep : Char) (s : List Char) : List Char × Option (List Char) :=
  match s.dropWhile (· != sep) with
  | [] => (s, none)
  | _ :: r => (s.takeWhile (· != sep), some r)

/-- The last occurrence of `sep` cuts the text in two. -/
def cutLast? (sep : Char) (s : List Char) : Option (List Char × List Char) :=
  match cutFirst sep s.reverse with
  | (_, none) => none
  | (back, some front) => some (front.reverse, back.reverse)

/-- Whether `pat` stands somewhere in `s`. -/
def holds (pat : List Char) : List Char → Bool
  | [] => pat.isEmpty
  | c :: r => pat.isPrefixOf (c :: r) || holds pat r

/-- Whether `s` starts with `pat`. -/
def startsWith (pat s : String) : Bool := pat.toList.isPrefixOf s.toList

/-- Whether `s` ends with `pat`. -/
def endsWith (pat s : String) : Bool := pat.toList.isSuffixOf s.toList

/-- Every occurrence of `pat`, from the left and without overlaps, is replaced by `new`. Leading
occurrences are counted off by `skip`, the number of characters of one that are still to drop. -/
def replacedFrom (pat new : List Char) : Nat → List Char → List Char
  | _, [] => []
  | skip + 1, _ :: r => replacedFrom pat new skip r
  | 0, c :: r =>
    if pat.isPrefixOf (c :: r) && !pat.isEmpty then
      new ++ replacedFrom pat new (pat.length - 1) r
    else c :: replacedFrom pat new 0 r

/-- Every occurrence of `pat`, from the left and without overlaps, is replaced by `new`. -/
def replaced (pat new s : List Char) : List Char := replacedFrom pat new 0 s

end GpuMetrics.Text
