import GpuMetrics.Metric.Family

/-!
# Registered names

Whoever exports metrics claims their names first, so that no two exporters give the same series. A
counter also claims the names of its samples.
-/

namespace GpuMetrics.Metric

/-- The names that are claimed, from the first to the last. -/
structure Registry where
  claimed : List String
  deriving DecidableEq, Repr

namespace Registry

/-- A registry in which no name is claimed. -/
def empty : Registry := ⟨[]⟩

/-- What a kind of metric adds to its name for its samples. -/
def endings : Kind → List String
  | .gauge => []
  | .counter => [totalEnding, "_created"]

/-- The names that a family claims. -/
def namesOf (f : Family) : List String := f.name :: (endings f.kind).map (f.name ++ ·)

/-- Puts a text into texts in the order of their characters, each text once. -/
def insertSorted (s : String) : List String → List String
  | [] => [s]
  | t :: r => if s = t then t :: r else if s < t then s :: t :: r else t :: insertSorted s r

/-- Texts in the order of their characters, each text once. -/
def sorted (l : List String) : List String := l.foldl (fun r s => insertSorted s r) []

/-- Claims the names of some families, as `CollectorRegistry.register` does. Names that were claimed
before are a fault; names that come twice among the families are none. -/
def register (r : Registry) (families : List Family) : Except (List String) Registry :=
  let names := families.flatMap namesOf
  let again := names.filter fun n => r.claimed.contains n
  if again.isEmpty then .ok ⟨r.claimed ++ names⟩ else .error (sorted again)

end Registry

end GpuMetrics.Metric
