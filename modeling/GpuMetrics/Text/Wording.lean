import GpuMetrics.Text.Quoted

/-!
# Texts that no string holds

A surrogate is a code that stands for half of a character. No string holds one, but an escape in a
document may name one that stands alone. A wording is a text in which surrogates may stand: a
string, and behind it surrogates with a string behind each. Most wordings are one string. Wordings
and their code points are found again from each other (`ofPoints_points`, `points_ofPoints`).
-/

namespace GpuMetrics.Text

/-- Half of a character. -/
structure Surrogate where
  code : Nat
  isSurrogate : 0xD800 ≤ code ∧ code < 0xE000
  deriving DecidableEq, Repr

/-- What a code stands for. -/
inductive CodePoint
  | /-- A character. -/
    character (c : Char)
  | /-- Half of a character. -/
    surrogate (s : Surrogate)
  deriving DecidableEq, Repr

namespace CodePoint

/-- What a code below 0x110000 stands for. -/
def ofCode (n : Nat) : CodePoint :=
  if h : 0xD800 ≤ n ∧ n < 0xE000 then .surrogate ⟨n, h⟩ else .character (Char.ofNat n)

/-- The code. -/
def code : CodePoint → Nat
  | character c => c.toNat
  | surrogate s => s.code

/-- The character, unless it is only half of one. -/
def char? : CodePoint → Option Char
  | character c => some c
  | surrogate _ => none

/-- The escape by code. -/
def escape : CodePoint → List Char
  | character c => codeEscape c
  | surrogate s => '\\' :: 'u' :: hexText 4 s.code

/-- How a code point is shown between the given quotes. A surrogate has no visible form. -/
def shownBetween (quote : Char) : CodePoint → List Char
  | character c => Text.shownBetween quote c
  | surrogate s => escape (.surrogate s)

end CodePoint

/-- A text in which surrogates may stand. -/
structure Wording where
  /-- The text up to the first surrogate. -/
  head : String
  /-- Each surrogate with the text behind it. -/
  tail : List (Surrogate × String) := []
  deriving DecidableEq, Repr

instance : Coe String Wording := ⟨fun s => ⟨s, []⟩⟩

namespace Wording

/-- Whether there is nothing in a wording. -/
def isEmpty (w : Wording) : Bool := w.head.isEmpty && w.tail.isEmpty

/-- The string that a wording is, if no surrogate stands in it. -/
def string? : Wording → Option String
  | ⟨s, []⟩ => some s
  | _ => none

/-- What is put in place of a surrogate where a string is asked for. -/
def replacement : String := String.singleton (Char.ofNat 0xFFFD)

/-- A wording as a string. A surrogate is like the character in its place in that it is no letter,
no digit, no blank and no mark of any kind. -/
def outline (w : Wording) : String :=
  w.tail.foldl (fun text (_, run) => text ++ replacement ++ run) w.head

/-- Does the same with each string in a wording. -/
def map (f : String → String) (w : Wording) : Wording :=
  ⟨f w.head, w.tail.map fun (s, run) => (s, f run)⟩

/-! ## Code points -/

/-- The code points of a string. -/
def pointsOf (s : String) : List CodePoint := s.toList.map .character

/-- The code points of a wording. -/
def points (w : Wording) : List CodePoint :=
  pointsOf w.head ++ w.tail.flatMap fun (s, run) => .surrogate s :: pointsOf run

/-- The characters up to the first surrogate, and each surrogate with the characters behind it. -/
def runsOf : List CodePoint → List Char × List (Surrogate × List Char)
  | [] => ([], [])
  | .character c :: r => (c :: (runsOf r).1, (runsOf r).2)
  | .surrogate s :: r => ([], (s, (runsOf r).1) :: (runsOf r).2)

/-- The wording of some code points. -/
def ofPoints (points : List CodePoint) : Wording :=
  let (head, tail) := runsOf points
  ⟨String.ofList head, tail.map fun (s, run) => (s, String.ofList run)⟩

/-- The wording as a message shows it. -/
def quoted (w : Wording) : String :=
  let quote := quoteFor (w.points.filterMap CodePoint.char?)
  String.ofList (quote :: w.points.flatMap (CodePoint.shownBetween quote) ++ [quote])

/-! ## Lemmas -/

/-- A string is a text without surrogates. -/
@[simp] theorem string?_coe (s : String) : string? s = some s := rfl

/-- A string is its own outline. -/
@[simp] theorem outline_coe (s : String) : outline s = s := rfl

/-- The code points of a string are its characters. -/
@[simp] theorem points_coe (s : String) : points s = pointsOf s := by simp [points]

/-- Characters in front go to the first run. -/
theorem runsOf_append (cs : List Char) (r : List CodePoint) :
    runsOf (cs.map .character ++ r) = (cs ++ (runsOf r).1, (runsOf r).2) := by
  induction cs with
  | nil => rfl
  | cons c cs ih => simp [runsOf, ih]

/-- The runs behind the surrogates are found again. -/
theorem runsOf_flatMap (tail : List (Surrogate × String)) :
    runsOf (tail.flatMap fun e => .surrogate e.1 :: pointsOf e.2)
      = ([], tail.map fun e => (e.1, e.2.toList)) := by
  induction tail with
  | nil => rfl
  | cons e tail ih =>
    simp only [pointsOf] at ih ⊢
    simp [runsOf, runsOf_append, ih]

/-- A wording is found again from its code points. -/
theorem ofPoints_points (w : Wording) : ofPoints w.points = w := by
  unfold ofPoints points
  rw [pointsOf, runsOf_append, runsOf_flatMap]
  simp [Function.comp_def]

/-- The code points of a wording are found again. -/
theorem points_ofPoints (l : List CodePoint) : (ofPoints l).points = l := by
  induction l with
  | nil => rfl
  | cons p r ih =>
    simp only [ofPoints, points, pointsOf, String.toList_ofList, List.flatMap_map] at ih ⊢
    cases p with
    | character c => rw [runsOf, List.map_cons, List.cons_append, ih]
    | surrogate s => rw [runsOf, List.flatMap_cons, List.map_nil, List.nil_append, List.cons_append,
        ih]

end Wording

end GpuMetrics.Text
