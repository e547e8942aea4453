import GpuMetrics.Service.Basic

/-!
# What happens to a service

A service that is run, as `ExporterApp.run` runs it, binds its address, answers requests in the
background, and waits. While it waits things happen to it: somebody pulls its metrics, a request
comes in, a signal arrives, or the surroundings change. It goes on waiting until a stop is
requested, and then closes its server; what happens in the meantime is still answered. It ends with
an error if it was told of a failed run, and not if it was merely asked to stop. If its address
cannot be bound it does none of this: the trouble that the network raises is not caught.
-/

namespace GpuMetrics.Service

/-! ## Events and their answers -/

/-- The signals that a service listens to. -/
inductive Signal
  | /-- The service is asked to terminate. -/
    terminate
  | /-- The service is interrupted from the keyboard. -/
    interrupt
  deriving DecidableEq, Repr

/-- The name of a signal. -/
def Signal.name : Signal → String
  | terminate => "SIGTERM"
  | interrupt => "SIGINT"

/-- Something that happens to a service. -/
inductive Event (σ : Type)
  | /-- Somebody pulls the families. -/
    pull
  | /-- A request comes in. -/
    request (line : String)
  | /-- A signal arrives. -/
    signal (signal : Signal)
  | /-- The surroundings change. -/
    turn (change : σ → σ)

/-- What an event leads to. -/
inductive Answer
  | /-- Families are given. -/
    families (list : List Metric.Family)
  | /-- A request is answered, or there is no answer. -/
    response (result : Except Web.AnswerFault Web.Response)
  | /-- Nothing is given. -/
    silence
  | /-- The event leads to a fault, which the service survives. -/
    fault (fault : Fault)

variable {σ : Type}

/-- Does what an event asks for. What a signal does is done by `_signal_handler`. -/
def handle (s : Service) (runner : Runner σ) : Event σ → Session σ Answer
  | .pull => return .families (← s.pull runner)
  | .request line => return .response (← (s.server runner).answer line)
  | .signal g => do
    Session.note channel .info ("Received " ++ g.name ++ ", initiating graceful shutdown...")
    Session.requestStop
    return .silence
  | .turn change => do
    Session.change fun site => { site with surroundings := change site.surroundings }
    return .silence

/-- The answer to an event, which may be a fault. -/
def answer (s : Service) (runner : Runner σ) (e : Event σ) : Session σ Answer := do
  match ← Session.attempt (s.handle runner e) with
  | .ok a => return a
  | .error fault => return .fault fault

/-- The answers to the events that happen before a stop is requested. -/
def await (s : Service) (runner : Runner σ) : List (Event σ) → Session σ (List Answer)
  | [] => return []
  | e :: rest => do
    if ← Session.isStopped then return []
    else
      let a ← s.answer runner e
      return a :: (← await s runner rest)

/-- The answers to events, whether or not a stop has been requested. -/
def answerAll (s : Service) (runner : Runner σ) : List (Event σ) → Session σ (List Answer)
  | [] => return []
  | e :: rest => do
    let a ← s.answer runner e
    return a :: (← answerAll s runner rest)

/-! ## The server and its thread -/

/-- What comes of binding an address. There may be no such host, it may be of a family that the
server is not made for, or the port may be taken. -/
abbrev Network := Address → Except Trouble Unit

/-- A network on which every address can be bound. -/
def Network.willing : Network := fun _ => .ok ()

/-- What a service does with the server of its pages. -/
inductive Act
  | /-- Binds it to an address. -/
    bind (address : Address)
  | /-- Starts a thread, which does not keep the program alive if it is a daemon. -/
    thread (name : String) (daemon : Bool)
  | /-- Lets it answer requests. -/
    serve
  | /-- Lets it answer no more requests. -/
    shutdown
  | /-- Frees its address. -/
    close
  deriving DecidableEq, Repr

/-- The address that a service binds, if the network lets it: what becomes of `host_port` and of the
server made for it. -/
def bound (s : Service) (net : Network) : Except Trouble Address :=
  match s.settings.address with
  | .error e => .error ⟨.value, e.message⟩
  | .ok address => (net address).map fun _ => address

/-- Sets the server of a service up, as `start_server` does, and tells what was done. Once its
address is bound it answers requests in a thread. -/
def startServer (s : Service) (net : Network) : Session σ (List Act) :=
  match s.bound net with
  | .error t => throw (.trouble t)
  | .ok address => return [.bind address, .thread "metrics-http" true, .serve]

/-- What a service does with its server when a stop has been requested. -/
def closing : List Act := [.shutdown, .close]

/-! ## Runs -/

/-- A run of a service from its opening to its end. -/
structure Run where
  answers : List Answer
  acts : List Act
  /-- Whether the service ends because it was told of a failed run. -/
  failed : Bool

/-- The exit code of the program after a run. -/
def Run.exitCode (r : Run) : Nat := if r.failed then 1 else 0

/-- Runs a service: `ExporterApp.run`. When its server is up it waits while the events happen, after
the last of which it is asked to terminate, if no stop has been requested before. The late events
happen when it waits no more and its server is not closed yet. -/
def runWith (s : Service) (net : Network) (runner : Runner σ) (events late : List (Event σ)) :
    Session σ Run := do
  let opening ← s.startServer net
  Session.note channel .info
    ("Listening on " ++ s.settings.web.listenAddress.outline ++ ", metrics at "
      ++ s.settings.web.telemetryPath.outline)
  let answers ← s.await runner (events ++ [.signal .terminate])
  let lateAnswers ← s.answerAll runner late
  Session.note channel .info "Shutting down http server"
  let notices ← Session.look Site.notices
  return ⟨answers ++ lateAnswers, opening ++ closing, !notices.isEmpty⟩

/-- Runs a service to which nothing happens any more when it waits no more. -/
def run (s : Service) (net : Network) (runner : Runner σ) (events : List (Event σ)) :
    Session σ Run :=
  s.runWith net runner events []

end GpuMetrics.Service
