import GpuMetrics.CommandLine.Help
import GpuMetrics.CommandLine.Settings
import GpuMetrics.Log.Level
import GpuMetrics.Service.Events

/-!
# The program

A command line together with files and variables says what is to be done: show the help, complain of
a misuse, complain of settings that cannot be had, list the fields that the tool supports, or run a
service. `Intent.of` finds out which, and `Intent.carryOut` does it. How it ends tells the exit code
and what is printed; what is logged is in the site of the session.
-/

namespace GpuMetrics

open CommandLine (Misuse)

/-! ## What is to be done -/

/-- What the program is to do. -/
inductive Intent
  | /-- The help is to be shown. -/
    help
  | /-- The command line has a fault. -/
    misuse (misuse : Misuse)
  | /-- There are no settings. -/
    unsettled (fault : FileFault)
  | /-- The fields that the tool supports are to be listed. -/
    list (settings : Settings)
  | /-- A service is to be run. -/
    serve (settings : Settings)

/-- How the program ends. -/
inductive Ending
  | /-- The help is shown. -/
    helped
  | /-- The command line had a fault. -/
    misused (misuse : Misuse)
  | /-- There were no settings. -/
    unsettled (fault : FileFault)
  | /-- The fields are listed. -/
    listed (fields : List String)
  | /-- A fault has been logged. -/
    failed
  | /-- A service has been run. -/
    served (run : Service.Run)

namespace Intent

/-- What a command line, files and variables ask for. -/
def of (words : List String) (files : Files) (env : Environment) : Intent :=
  match CommandLine.parse words with
  | .error m => .misuse m
  | .ok .help => .help
  | .ok (.run a) =>
    match a.settings files env with
    | .error e => .unsettled e
    | .ok s => if a.listQueryFields then .list s else .serve s

/-- The level of the records that are shown. Nothing is logged where there are no settings, and
settings that have been accepted name a level. -/
def level : Intent → Log.Level
  | list s => (Log.levelOf s.logLevel).toOption.getD Log.Level.info
  | serve s => (Log.levelOf s.logLevel).toOption.getD Log.Level.info
  | _ => Log.Level.info

variable {σ : Type}

/-- Lists the fields that the tool supports, as `list_query_fields` does. A run that fails and a
help text without fields are logged. -/
def listFields (settings : Settings) (runner : Runner σ) : Session σ Ending := do
  let smi ← Session.ofExcept
    (Smi.ofCommand settings.collector.command.outline (some settings.collector.commandTimeout)
      Service.channel)
  match ← Session.attempt (Field.detect smi runner) with
  | .ok fields => return .listed fields
  | .error e =>
    if Field.isDetectionFault e then
      Session.note Service.channel .error ("Failed to list query fields: " ++ e.message)
      return .failed
    else throw e

/-- Builds a service and runs it. A fault in the building is logged, and one in the run is not
caught. -/
def runService (settings : Settings) (rule : Metric.NameRule) (net : Service.Network)
    (runner : Runner σ) (events : List (Service.Event σ)) : Session σ Ending := do
  match ← Session.attempt (Service.build settings rule runner) with
  | .ok s => return .served (← s.run net runner events)
  | .error e =>
    Session.note Service.channel .error ("Failed to create exporter: " ++ e.message)
    return .failed

/-- Does what is to be done, as `main` does. The network is the one that a service listens on, and
the events are those that happen to it while it is run. -/
def carryOut (rule : Metric.NameRule) (net : Service.Network) (runner : Runner σ)
    (events : List (Service.Event σ)) : Intent → Session σ Ending
  | help => return .helped
  | misuse m => return .misused m
  | unsettled e => return .unsettled e
  | list s => listFields s runner
  | serve s => runService s rule net runner events

end Intent

namespace Ending

/-- The exit code of the program. -/
def exitCode : Ending → Nat
  | helped => 0
  | misused _ => 2
  | unsettled _ => 1
  | listed _ => 0
  | failed => 1
  | served run => run.exitCode

/-- What the program prints besides the log. -/
def text : Ending → String
  | helped => CommandLine.helpText
  | listed fields => "Fields:\n\n" ++ Text.joined "\n" fields ++ "\n"
  | _ => ""

/-- What the program complains of before it has settings to log by. -/
def complaint? : Ending → Option String
  | misused m => some (CommandLine.misuseText m.message)
  | unsettled e => some ("Failed to load configuration: " ++ e.message)
  | _ => none

/-- The run of a service. -/
def run? : Ending → Option Service.Run
  | served run => some run
  | _ => none

end Ending

end GpuMetrics
