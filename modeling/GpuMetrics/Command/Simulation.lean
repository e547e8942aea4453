import GpuMetrics.Command.Fault
import GpuMetrics.Command.Supervision

/-!
# A simulated process

A process that ends at a known time, and a clock that moves only while the process is waited for.
A stop counts as requested from a known time on. Every wait before a kill is recorded.
-/

namespace GpuMetrics

/-- What a process leaves behind when it ends. -/
structure Leftovers where
  exitCode : Int
  stdout : Stream
  stderr : Stream
  deriving DecidableEq, Repr

/-- A simulated process with its clock and the record of what was done to it. -/
structure Simulation (τ : Type) where
  /-- The reading of the clock. -/
  clock : τ
  /-- The time at which the process ends by itself. -/
  endsAt : τ
  /-- The time from which on a stop counts as requested. -/
  stopsAt : Option τ
  /-- What the process leaves behind. -/
  leftovers : Leftovers
  /-- The waits so far, from the first to the last. -/
  waits : List (Option τ)
  /-- Whether the process was killed. -/
  killed : Bool

namespace Simulation

open Supervision

variable {τ : Type} [Time τ]

/-- The later of two readings. -/
def later (a b : τ) : τ := if Time.less a b then b else a

/-- Waits for the process. If it ends in time the clock moves to its end, else by the whole wait. -/
def wait (limit : Option τ) (s : Simulation τ) : Option Leftovers × Simulation τ :=
  let s := { s with waits := s.waits ++ [limit] }
  match limit with
  | none => (some s.leftovers, { s with clock := later s.clock s.endsAt })
  | some t =>
    if Time.atMost s.endsAt (Time.add s.clock t) then
      (some s.leftovers, { s with clock := later s.clock s.endsAt })
    else (none, { s with clock := Time.add s.clock t })

/-- Whether the clock has reached the time from which on a stop counts as requested. -/
def stopRequested (s : Simulation τ) : Bool :=
  match s.stopsAt with
  | none => false
  | some t => Time.atMost t s.clock

/-- The simulated process as a machine to be watched over. It can be waited for any time, and it can
be killed. -/
def machine : Machine (Simulation τ) τ Leftovers where
  now s := (s.clock, s)
  wait limit s :=
    let (left, s) := wait limit s
    (.ok left, s)
  stopRequested s := (s.stopRequested, s)
  kill s := (.ok (), { s with killed := true })
  reap s := (.ok s.leftovers, s)

/-- A simulated process that is started at a reading of the clock and runs for some time. -/
def start (start runsFor : τ) (stopsAt : Option τ) (leftovers : Leftovers) : Simulation τ :=
  { clock := start, endsAt := Time.add start runsFor, stopsAt := stopsAt, leftovers := leftovers,
    waits := [], killed := false }

end Simulation

/-- What a run of a command gives when the watch over it has ended: what `run_command` returns or
raises. Trouble is passed on. -/
def runOutcome (command : List String) (timeout : Option Float) :
    Supervision.Verdict Leftovers → Except Fault RunResult
  | .finished l => .ok ⟨command, l.exitCode, l.stdout.decode, l.stderr.decode⟩
  | .timedOut l => .error <| .run
    ⟨.timedOut (timeout.getD Decimal.infinity), command, unknownExitCode, l.stdout.decode,
      l.stderr.decode⟩
  | .cancelled l => .error <| .run
    ⟨.cancelled, command, unknownExitCode, l.stdout.decode, l.stderr.decode⟩
  | .abandoned t => .error (.trouble t)

/-- What a run of a command gives when the process cannot be started. Of what the start raises,
`run_command` catches trouble of the operating system, which makes a failed run; any other trouble
is passed on. -/
def startOutcome (command : List String) (t : Trouble) : Fault :=
  let failure (cause : RunFailure.Cause) : Fault :=
    .run ⟨cause, command, unknownExitCode, "", ""⟩
  match t.kind with
  | .fileNotFound => failure (.notFound t.message)
  | .permission => failure (.notPermitted t.message)
  | .notADirectory | .system => failure (.notStarted t.message)
  | .value | .runtime | .key | .wrongType | .overflow => .trouble t

/-- How a process goes: it cannot be started, or it runs. -/
inductive Course
  | /-- The start raises trouble. -/
    refuses (trouble : Trouble)
  | /-- The process runs for some seconds. -/
    runs (seconds : Float) (leftovers : Leftovers)

/-- What a run shows from outside. -/
structure Observation where
  /-- The outcome, if the watch came to an end. -/
  outcome : Option (Except Fault RunResult)
  /-- The waits before a kill, from the first to the last. -/
  waits : List (Option Float)
  /-- Whether the process was killed. -/
  killed : Bool

/-- Rounds that are enough for a process that runs for some seconds: twice as many as poll intervals
fit in, and some more for a start. -/
def enoughRounds (seconds : Float) : Nat := 2 * (seconds * 10).toUInt64.toNat + 1000

/-- Runs a command as a simulated process. `canStop` tells whether a stop can be requested at all,
and `stopsAt` from when on it is. -/
def runSimulated (command : List String) (timeout : Option Float) (canStop : Bool)
    (stopsAt : Option Float) (start : Float) : Course → Observation
  | .refuses t => ⟨some (.error (startOutcome command t)), [], false⟩
  | .runs seconds leftovers =>
    let s := Simulation.start start seconds stopsAt leftovers
    let (verdict, s) :=
      Supervision.watch Simulation.machine canStop timeout (enoughRounds seconds) s
    ⟨verdict.map (runOutcome command timeout), s.waits, s.killed⟩

end GpuMetrics
