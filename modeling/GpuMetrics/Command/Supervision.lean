import GpuMetrics.Command.Basic

/-!
# Watching over a process

A process is waited for in rounds, as `run_command` does after it has started one. A round lasts
until the deadline, or no longer than the poll interval if a stop can be requested. When a round
ends and the process has not, a passed deadline or a requested stop gets it killed; the deadline is
looked at first. The rule is stated for any clock and any process, as a machine that is asked and
answers; what the machine does in between is its own matter. To wait for a process, to kill it and
to take what it left behind can raise trouble. No such trouble is caught: the watch ends in it at
once, with the process as it is then.
-/

namespace GpuMetrics.Supervision

/-- What has to be known of a clock's readings. -/
class Time (τ : Type) where
  /-- No time at all. -/
  zero : τ
  /-- The longest round in which a stop can be requested. -/
  pollInterval : τ
  /-- The reading after some more time. -/
  add : τ → τ → τ
  /-- The time between two readings. -/
  sub : τ → τ → τ
  /-- Whether one is less than the other. -/
  less : τ → τ → Bool
  /-- Whether one is at most the other. -/
  atMost : τ → τ → Bool

/-- Binary numbers of seconds, with a poll interval of a tenth of a second. -/
instance : Time Float where
  zero := 0
  pollInterval := 0.1
  add := (· + ·)
  sub := (· - ·)
  less a b := a < b
  atMost a b := a ≤ b

/-- Exact seconds, with a poll interval of a tenth of a second. -/
instance : Time Rat where
  zero := 0
  pollInterval := 1 / 10
  add := (· + ·)
  sub := (· - ·)
  less a b := a < b
  atMost a b := a ≤ b

/-- A started process with a clock and a switch for stop requests. `ω` is what can change between
two questions, `τ` a reading of the clock, `ρ` what the process leaves behind. A wait may raise
trouble, such as one that is longer than the system can count, and so may a kill of a process that
belongs to somebody else. -/
structure Machine (ω τ ρ : Type) where
  /-- Reads the clock. -/
  now : ω → τ × ω
  /-- Waits for the process, forever or for some time, and tells what it left behind if it ended. -/
  wait : Option τ → ω → Except Trouble (Option ρ) × ω
  /-- Whether a stop has been requested. -/
  stopRequested : ω → Bool × ω
  /-- Kills the process. -/
  kill : ω → Except Trouble Unit × ω
  /-- Waits for the end of a killed process and takes what it left behind. -/
  reap : ω → Except Trouble ρ × ω

/-- How the watch over a process ended, and what the process left behind. -/
inductive Verdict (ρ : Type)
  | /-- The process ended by itself. -/
    finished (left : ρ)
  | /-- The process was killed because the deadline had passed. -/
    timedOut (left : ρ)
  | /-- The process was killed because a stop was requested. -/
    cancelled (left : ρ)
  | /-- The process was waited for no more since trouble was raised. -/
    abandoned (trouble : Trouble)
  deriving DecidableEq, Repr

variable {ω τ ρ : Type} [Time τ]

/-- The time that is left until a deadline, and none after it. -/
def remaining (deadline now : τ) : τ :=
  let left := Time.sub deadline now
  if Time.less left Time.zero then Time.zero else left

/-- The shorter of two times. -/
def shorter (a b : τ) : τ := if Time.less b a then b else a

/-- How long the next round lasts: the `wait` of `run_command`. The clock is read only if there is a
deadline. -/
def roundLength (m : Machine ω τ ρ) (canStop : Bool) (deadline : Option τ) (w : ω) :
    Option τ × ω :=
  match deadline with
  | none => (if canStop then some Time.pollInterval else none, w)
  | some d =>
    let (t, w) := m.now w
    let left := remaining d t
    (some (if canStop then shorter Time.pollInterval left else left), w)

/-- Whether the deadline has passed. The clock is read only if there is one. -/
def isOverdue (m : Machine ω τ ρ) (deadline : Option τ) (w : ω) : Bool × ω :=
  match deadline with
  | none => (false, w)
  | some d =>
    let (t, w) := m.now w
    (Time.atMost d t, w)

/-- Whether a stop has been requested, if it can be. -/
def isStopped (m : Machine ω τ ρ) (canStop : Bool) (w : ω) : Bool × ω :=
  if canStop then m.stopRequested w else (false, w)

/-- Kills the process and takes what it left behind. A process that cannot be killed is not waited
for. -/
def putDown (m : Machine ω τ ρ) (w : ω) : Except Trouble ρ × ω :=
  match m.kill w with
  | (.ok (), w) => m.reap w
  | (.error t, w) => (.error t, w)

/-- How a watch ends that put the process down for a reason. -/
def verdictOf (reason : ρ → Verdict ρ) : Except Trouble ρ → Verdict ρ
  | .ok left => reason left
  | .error t => .abandoned t

/-- Waits for the process for at most the given number of rounds, which are those of the loop in
`run_command`. -/
def rounds (m : Machine ω τ ρ) (canStop : Bool) (deadline : Option τ) :
    Nat → ω → Option (Verdict ρ) × ω
  | 0, w => (none, w)
  | n + 1, w =>
    let (length, w) := roundLength m canStop deadline w
    match m.wait length w with
    | (.error t, w) => (some (.abandoned t), w)
    | (.ok (some left), w) => (some (.finished left), w)
    | (.ok none, w) =>
      let (overdue, w) := isOverdue m deadline w
      if overdue then
        let (left, w) := putDown m w
        (some (verdictOf .timedOut left), w)
      else
        let (stopped, w) := isStopped m canStop w
        if stopped then
          let (left, w) := putDown m w
          (some (verdictOf .cancelled left), w)
        else rounds m canStop deadline n w

/-- Watches over a process that has just been started and may take as long as `timeout` says, for at
most the given number of rounds. -/
def watch (m : Machine ω τ ρ) (canStop : Bool) (timeout : Option τ) (most : Nat) (w : ω) :
    Option (Verdict ρ) × ω :=
  match timeout with
  | none => rounds m canStop none most w
  | some limit =>
    let (t, w) := m.now w
    rounds m canStop (some (Time.add t limit)) most w

end GpuMetrics.Supervision
