import GpuMetrics.Collector.Emission

/-!
# Pushing families into a queue

Families are offered to a sink one after the other. A sink that is full is offered the same family
again until it takes it or a stop is requested, so a reader that is stuck cannot hold up a shutdown.
The number of tries is bounded; how many tries suffice depends on the sink.
-/

namespace GpuMetrics.Collector

/-- What a sink answers to the offer of a family, and whether a stop was requested meanwhile. -/
structure Answer where
  accepted : Bool
  requestsStop : Bool

/-- Takes families or refuses them. `φ` is what the sink remembers from one offer to the next. -/
abbrev Sink (φ : Type) := Metric.Family → φ → Answer × φ

/-- How the offers of one family ended. -/
inductive Sending
  | /-- The sink took the family. -/
    taken
  | /-- The sink was full and a stop was requested. -/
    dropped
  | /-- The tries were used up. -/
    stuck
  deriving DecidableEq, Repr

variable {σ φ : Type}

/-- Offers a family until it is taken, or the sink is full and a stop is requested, as `_send`
does. -/
def send (sink : Sink φ) (f : Metric.Family) : Nat → φ → Session σ (Sending × φ)
  | 0, s => return (.stuck, s)
  | tries + 1, s => do
    let (answer, s) := sink f s
    if answer.requestsStop then Session.requestStop
    if answer.accepted then return (.taken, s)
    else if ← Session.isStopped then return (.dropped, s)
    else send sink f tries s

/-- What became of the families that were offered. -/
structure Delivery where
  /-- The number of families that the sink took. -/
  sent : Nat
  /-- Whether the tries were used up before the end. -/
  stuck : Bool
  deriving DecidableEq, Repr

/-- Offers the families that are left, when the sink has taken `n` before: the loop of
`collect_into`. -/
def deliver (c : Collector) (failed : Bool) (sink : Sink φ) (tries n : Nat) :
    List Metric.Family → φ → Session σ (Delivery × φ)
  | [], s => return (⟨n, false⟩, s)
  | f :: left, s => do
    if ← c.isOver failed then return (⟨n, false⟩, s)
    else
      let (sending, s) ← send sink f tries s
      match sending with
      | .taken => deliver c failed sink tries (n + 1) left s
      | .dropped =>
        Session.note c.channel .info "Stop requested, consumer is not reading, dropping metrics"
        return (⟨n, false⟩, s)
      | .stuck => return (⟨n, true⟩, s)

/-- Scrapes, and pushes the families into a sink with so many tries for each: `collect_into`. -/
def collectInto (c : Collector) (runner : Runner σ) (sink : Sink φ) (tries : Nat) (s : φ) :
    Session σ (Delivery × φ) := do
  match ← c.begin runner with
  | none => return (⟨0, false⟩, s)
  | some y => c.deliver y.failed sink tries 0 y.families s

/-! ## A bounded queue -/

/-- How a queue behaves. -/
structure Queue.Plan where
  /-- How many families the queue holds; a queue without a bound is never full. -/
  room : Option Nat
  /-- A family is read after each so many refusals. -/
  readsAfter : Option Nat
  /-- A stop is requested after so many refusals. -/
  stopsAfter : Option Nat
  /-- A stop is requested at the first offer after so many families were taken. -/
  stopsBefore : Option Nat
  deriving DecidableEq, Repr

/-- A queue of families. -/
structure Queue where
  /-- The families that were taken, from the first to the last. -/
  taken : List Metric.Family
  /-- The number of families that were read. -/
  read : Nat
  /-- The number of refusals. -/
  refusals : Nat

namespace Queue

/-- A queue that nothing was offered to. -/
def empty : Queue := ⟨[], 0, 0⟩

/-- The number of families in the queue. -/
def size (q : Queue) : Nat := q.taken.length - q.read

/-- Whether the queue holds as many families as it can. -/
def isFull (plan : Plan) (q : Queue) : Bool :=
  match plan.room with
  | none => false
  | some n => n ≤ q.size

/-- Whether so many refusals are a multiple of the number after which a family is read. -/
def isRead (plan : Plan) (refusals : Nat) : Bool :=
  match plan.readsAfter with
  | none => false
  | some n => n ≠ 0 && refusals % n = 0

/-- Whether a number has reached a limit, if there is one. -/
def reaches (limit : Option Nat) (n : Nat) : Bool :=
  match limit with
  | none => false
  | some m => m ≤ n

/-- Offers a family to the queue. -/
def offer (plan : Plan) : Sink Queue := fun f q =>
  let early := reaches plan.stopsBefore q.taken.length
  if q.isFull plan then
    let n := q.refusals + 1
    let q := { q with refusals := n, read := if isRead plan n then q.read + 1 else q.read }
    (⟨false, early || reaches plan.stopsAfter n⟩, q)
  else (⟨true, early⟩, { q with taken := q.taken ++ [f] })

/-- Tries that suffice for a queue that is read or leads to a stop request. -/
def tries (plan : Plan) : Nat := plan.readsAfter.getD 0 + plan.stopsAfter.getD 0 + 2

end Queue

end GpuMetrics.Collector
