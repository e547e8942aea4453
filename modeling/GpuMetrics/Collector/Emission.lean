import GpuMetrics.Collector.Scrape

/-!
# Handing out the families of a scrape

Families are handed out one by one, and the scrape runs only when the first of them is asked for.
Nothing is scraped once a stop has been requested. A successful scrape stops giving as soon as a
stop is requested; a failed one always gives its two families, since the failure itself may have led
to the request.
-/

namespace GpuMetrics.Collector

variable {σ : Type}

/-! ## The two looks at the stop request -/

/-- Scrapes unless a stop has been requested. -/
def begin (c : Collector) (runner : Runner σ) : Session σ (Option Yield) := do
  if ← Session.isStopped then
    Session.note c.channel .info "Stop requested, skipping scrape"
    return none
  else return some (← c.scrape runner)

/-- Whether no more families of a scrape are given. -/
def isOver (c : Collector) (failed : Bool) : Session σ Bool := do
  if failed then return false
  else if ← Session.isStopped then
    Session.note c.channel .info "Stop requested, aborting metric emission"
    return true
  else return false

/-! ## One family at a time -/

/-- How far the handing out of families has come. -/
inductive Emission
  | /-- No family has been asked for. -/
    waiting
  | /-- The scrape has run, and these families are left. -/
    giving (left : List Metric.Family) (failed : Bool)
  | /-- There are no more families. -/
    finished

/-- The next family of a scrape that has run, if there is one. -/
def give (c : Collector) (failed : Bool) :
    List Metric.Family → Session σ (Option Metric.Family × Emission)
  | [] => return (none, .finished)
  | f :: left => do
    if ← c.isOver failed then return (none, .finished)
    else return (some f, .giving left failed)

/-- The next family, if there is one. -/
def Emission.next (c : Collector) (runner : Runner σ) :
    Emission → Session σ (Option Metric.Family × Emission)
  | .waiting => do
    match ← c.begin runner with
    | none => return (none, .finished)
    | some y => c.give y.failed y.families
  | .giving left failed => c.give failed left
  | .finished => return (none, .finished)

/-! ## All families -/

/-- What a reader of families does when it has received the `n`-th of them. -/
structure Reader where
  /-- Whether a stop is requested then. -/
  requestsStop : Nat → Bool
  /-- Whether the reader wants no more. -/
  leaves : Nat → Bool

/-- A reader that takes whatever there is. -/
def Reader.patient : Reader := ⟨fun _ => false, fun _ => false⟩

/-- The families that a reader receives of those that are left, when it has received `n` before. -/
def emit (c : Collector) (failed : Bool) (reader : Reader) (n : Nat) :
    List Metric.Family → Session σ (List Metric.Family)
  | [] => return []
  | f :: left => do
    if ← c.isOver failed then return []
    else
      if reader.requestsStop (n + 1) then Session.requestStop
      if reader.leaves (n + 1) then return [f]
      else return f :: (← emit c failed reader (n + 1) left)

/-- The families that a reader receives who goes through `collect`. -/
def collectFor (c : Collector) (runner : Runner σ) (reader : Reader) :
    Session σ (List Metric.Family) := do
  match ← c.begin runner with
  | none => return []
  | some y => c.emit y.failed reader 0 y.families

/-- All families: `collect` gone through to its end. -/
def collect (c : Collector) (runner : Runner σ) : Session σ (List Metric.Family) :=
  c.collectFor runner .patient

end GpuMetrics.Collector
