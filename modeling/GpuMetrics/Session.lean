import GpuMetrics.Command.Fault
import GpuMetrics.Log.Record

/-!
# Sessions

What a program that runs the tool does, one step after the other: it runs commands through a runner,
writes to the log, looks at and sets the stop request, and keeps its health. A session is a function
on all of this that may end in a fault. What was done before a fault stays done.
-/

namespace GpuMetrics

/-! ## Health -/

/-- The state of the latest scrape: a `ScrapeState`. -/
inductive ScrapeState
  | /-- There was no scrape yet. -/
    idle
  | /-- A scrape is going on. -/
    scraping
  | /-- The latest scrape succeeded. -/
    success
  | /-- The latest scrape failed. -/
    failure
  deriving DecidableEq, Repr

namespace ScrapeState

/-- All states. -/
def all : List ScrapeState := [idle, scraping, success, failure]

/-- The name of the state. -/
def name : ScrapeState → String
  | idle => "idle"
  | scraping => "scraping"
  | success => "success"
  | failure => "failure"

/-- Whether a scrape has come to its end. -/
def isFinished : ScrapeState → Bool
  | success => true
  | failure => true
  | _ => false

end ScrapeState

/-- What is known of the scrapes so far. -/
structure Health where
  /-- The state of the latest scrape. -/
  state : ScrapeState
  /-- The exit code of the latest run. -/
  lastExitCode : Int
  /-- The number of scrapes that failed. -/
  failedScrapes : Nat
  deriving DecidableEq, Repr

/-- The health before the first scrape. -/
def Health.initial : Health := ⟨.idle, unknownExitCode, 0⟩

/-! ## Runners -/

/-- What a runner gives for an invocation, and whether a stop was requested meanwhile. -/
structure Reply where
  outcome : Except Fault RunResult
  requestsStop : Bool

/-- Runs commands. `σ` is what the surroundings remember from one run to the next. -/
abbrev Runner (σ : Type) := Invocation → σ → Reply × σ

/-! ## Sessions -/

/-- Everything that a session can look at and change. -/
structure Site (σ : Type) where
  /-- What the surroundings remember. -/
  surroundings : σ
  /-- Whether a stop was requested. -/
  stopped : Bool
  /-- The invocations so far. -/
  calls : List Invocation
  /-- The log so far. -/
  records : List Log.Record
  /-- The failed runs that the shutdown listener was told of. -/
  notices : List RunFailure
  /-- What is known of the scrapes. -/
  health : Health

/-- The site before anything was done. -/
def Site.initial {σ : Type} (surroundings : σ) : Site σ :=
  ⟨surroundings, false, [], [], [], .initial⟩

/-- What a program does on a site; it may end in a fault. -/
abbrev Session (σ α : Type) := ExceptT Fault (StateM (Site σ)) α

namespace Session

variable {σ α : Type}

/-- The result of a session and the site after it. -/
def on (s : Session σ α) (site : Site σ) : Except Fault α × Site σ := (ExceptT.run s).run site

/-- Looks at the site. -/
def look (f : Site σ → α) : Session σ α := do return f (← get)

/-- Changes the site. -/
def change (f : Site σ → Site σ) : Session σ Unit := modify f

/-- Writes to the log. -/
def log (r : Log.Record) : Session σ Unit := change fun s => { s with records := s.records ++ [r] }

/-- Writes records to the log. -/
def logAll (rs : List Log.Record) : Session σ Unit :=
  change fun s => { s with records := s.records ++ rs }

/-- Writes a record without further values. -/
def note (channel : String) (level : Log.Level) (message : String) : Session σ Unit :=
  log (.plain channel level message)

/-- Requests a stop. -/
def requestStop : Session σ Unit := change fun s => { s with stopped := true }

/-- Whether a stop was requested. -/
def isStopped : Session σ Bool := look Site.stopped

/-- Changes the health. -/
def setHealth (f : Health → Health) : Session σ Unit :=
  change fun s => { s with health := f s.health }

/-- The outcome of a session; a fault in it is a result like any other. -/
def attempt (s : Session σ α) : Session σ (Except Fault α) :=
  ExceptT.lift (ExceptT.run s)

/-- The result of a calculation that may end in a fault. -/
def ofExcept (r : Except Fault α) : Session σ α :=
  match r with
  | .ok a => pure a
  | .error e => throw e

/-- Runs a command. A stop that is requested during the run counts from the end of the run on,
whatever its outcome. -/
def invoke (runner : Runner σ) (call : Invocation) : Session σ RunResult := do
  let site ← get
  let (reply, surroundings) := runner call site.surroundings
  set { site with
    surroundings := surroundings
    stopped := site.stopped || reply.requestsStop
    calls := site.calls ++ [call] }
  ofExcept reply.outcome

end Session

end GpuMetrics
