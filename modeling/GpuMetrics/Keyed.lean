/-!
# Values under keys, in the order of their arrival

A list of pairs in which a key stands once. Putting a value under a key that is there replaces the
value and keeps the place; a new key goes to the end.
-/

namespace GpuMetrics

/-- Values under keys, in the order in which the keys arrived. -/
abbrev Keyed (κ α : Type) := List (κ × α)

namespace Keyed

variable {κ α : Type} [DecidableEq κ]

/-- Puts a value under a key. -/
def put (d : Keyed κ α) (k : κ) (a : α) : Keyed κ α :=
  match d with
  | [] => [(k, a)]
  | e :: r => if e.1 = k then (k, a) :: r else e :: put r k a

/-- The value under a key. -/
def get? (d : Keyed κ α) (k : κ) : Option α :=
  match d with
  | [] => none
  | e :: r => if e.1 = k then some e.2 else get? r k

/-- Whether there is a value under a key. -/
def has (d : Keyed κ α) (k : κ) : Bool := (get? d k).isSome

/-- The keys in the order of their arrival. -/
def keys (d : Keyed κ α) : List κ := d.map (·.1)

/-- Changes the value under a key that is there. -/
def change (d : Keyed κ α) (k : κ) (f : α → α) : Keyed κ α :=
  match d with
  | [] => []
  | e :: r => if e.1 = k then (e.1, f e.2) :: r else e :: change r k f

/-- The pairs put one after the other: the first place and the last value of each key. -/
def ofList (l : List (κ × α)) : Keyed κ α := l.foldl (fun d e => put d e.1 e.2) []

/-- What is put under a key is found there, and nothing else changes. -/
theorem get?_put (d : Keyed κ α) (k j : κ) (a : α) :
    get? (put d k a) j = if k = j then some a else get? d j := by
  induction d with
  | nil => simp [put, get?]
  | cons e r ih =>
    by_cases he : e.1 = k
    · by_cases hj : k = j <;> simp [put, get?, he, hj]
    · by_cases hj : e.1 = j
      · subst hj
        have hk : k ≠ e.1 := fun h => he h.symm
        simp [put, get?, he, hk]
      · simp [put, get?, he, hj, ih]

/-- Putting keeps the keys that are there and adds a new one at the end. -/
theorem keys_put (d : Keyed κ α) (k : κ) (a : α) :
    keys (put d k a) = if k ∈ keys d then keys d else keys d ++ [k] := by
  induction d with
  | nil => simp [put, keys]
  | cons e r ih =>
    by_cases he : e.1 = k
    · simp [put, keys, he]
    · have hk : k ≠ e.1 := fun h => he h.symm
      by_cases hr : k ∈ keys r
      · simp_all [put, keys]
      · simp_all [put, keys]

end Keyed

end GpuMetrics
