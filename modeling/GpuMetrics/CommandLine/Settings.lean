import GpuMetrics.CommandLine.Arguments
import GpuMetrics.Config.File

/-!
# Settings from all layers

Settings come from a file if the command line names one, then from variables of the surroundings,
and then from the command line. Each layer has to give settings before the next is laid over it.
-/

namespace GpuMetrics.CommandLine.Arguments

/-- A named value, if an option was given. A value that was taken back is an empty list, which no
setting takes. -/
def field {α : Type} (document : α → Document) (name : String) (given : Option (Given α)) :
    List (String × Document) :=
  match given with
  | none => []
  | some (.value a) => [(name, document a)]
  | some .nothing => [(name, .list [])]

/-- The settings of the collector that the command line has. -/
def collectorFields (a : Arguments) : List (String × Document) :=
  field .ofString "nvidia_smi_command" a.command
    ++ field .ofString "query_field_names" a.queryFieldNames
    ++ (if a.shutdownOnError then [("shutdown_on_error", .flag true)] else [])
    ++ field .number "command_timeout" a.commandTimeout

/-- The settings of the web server that the command line has. -/
def webFields (a : Arguments) : List (String × Document) :=
  field .ofString "listen_address" a.listenAddress
    ++ field .ofString "telemetry_path" a.telemetryPath

/-- The level of the log that the command line has. A level that was taken back counts for
nothing. -/
def levelFields (a : Arguments) : List (String × Document) :=
  match a.logLevel with
  | some (.value level) => [("log_level", .text level)]
  | _ => []

/-- A named table, unless it has no entries. -/
def partOf (name : String) (fields : List (String × Document)) : List (String × Document) :=
  if fields.isEmpty then [] else [(name, .ofFields fields)]

/-- The settings that the command line has: `cli_overrides`. -/
def layer (a : Arguments) : Document :=
  .ofFields (partOf "collector" a.collectorFields ++ partOf "web" a.webFields
    ++ a.levelFields)

/-- The settings of the file that the command line names, or the defaults if it names none. -/
def fileSettings (a : Arguments) (files : Files) (env : Environment) :
    Except FileFault Settings :=
  match a.config with
  | some (.value path) => if path.isEmpty then .ok {} else files.settings env path
  | _ => .ok {}

/-- The settings from all layers, in the order of `load_config`. -/
def settings (a : Arguments) (files : Files) (env : Environment) : Except FileFault Settings := do
  let s ← a.fileSettings files env
  let s ← (s.overlaid env.layer).mapError .rejected
  (s.overlaid a.layer).mapError .rejected

end GpuMetrics.CommandLine.Arguments
