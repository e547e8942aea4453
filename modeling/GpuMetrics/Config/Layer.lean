import GpuMetrics.Config.Placeholder

/-!
# Layers of settings

Settings come in layers, and a later layer is laid over an earlier one. Where both have a table
under a key the tables are laid over each other in the same way, and else the later value holds. The
keys keep the order of the earlier layer, and new ones follow in the order of the later layer.
-/

namespace GpuMetrics

namespace Document

mutual

/-- A document laid over another, as `_deep_merge` lays tables over each other. -/
def overlay : Document → Document → Document
  | .table entries, base =>
    match base with
    | .table below => .table (overlayEntries entries below)
    | _ => .table entries
  | .null, _ => .null
  | .flag b, _ => .flag b
  | .integer i, _ => .integer i
  | .number x, _ => .number x
  | .text w, _ => .text w
  | .bytes b, _ => .bytes b
  | .list items, _ => .list items
  | .foreign kind empty, _ => .foreign kind empty

/-- The entries of a table laid over those of another. -/
def overlayEntries : List (Key × Document) → Keyed Key Document → Keyed Key Document
  | [], below => below
  | (k, d) :: r, below =>
    let d := match Keyed.get? below k with
      | some old => overlay d old
      | none => d
    overlayEntries r (Keyed.put below k d)

end

/-- Why a document cannot be laid over another. -/
inductive LayerFault
  | /-- The upper document is no table. -/
    noLayer (kind : String)
  deriving DecidableEq, Repr

/-- How a message names the fault. -/
def LayerFault.message : LayerFault → String
  | noLayer kind => "'" ++ kind ++ "' object has no attribute 'items'"

/-- A document laid over another at the top, as `_deep_merge` lays it, where it has to be a table.
The lower one is always a table: settings are written down as one before they are laid under. -/
def laidOver (layer base : Document) : Except LayerFault Document :=
  match layer with
  | table entries => .ok (overlay (.table entries) base)
  | d => .error (.noLayer d.kindName)

end Document

namespace Environment

/-- What the names of all variables with settings begin with. -/
def stem : String := "NVIDIA_GPU_EXPORTER_"

/-- The variables with settings, each with the table and the key that it sets. -/
def settingNames : List (String × Option String × String) := [
  ("PREFIX", some "collector", "prefix"),
  ("NVIDIA_SMI_COMMAND", some "collector", "nvidia_smi_command"),
  ("QUERY_FIELD_NAMES", some "collector", "query_field_names"),
  ("SHUTDOWN_ON_ERROR", some "collector", "shutdown_on_error"),
  ("COMMAND_TIMEOUT", some "collector", "command_timeout"),
  ("LISTEN_ADDRESS", some "web", "listen_address"),
  ("TELEMETRY_PATH", some "web", "telemetry_path"),
  ("LOG_LEVEL", none, "log_level")]

/-- Puts a value under a key of a table, or under a key of a table in it. -/
def place (top : Keyed Key Document) (part : Option String) (key : String)
    (value : Text.Wording) : Keyed Key Document :=
  match part with
  | none => Keyed.put top (.name key) (.text value)
  | some p =>
    let inner := ((Keyed.get? top (.name p)).map Document.entries).getD []
    Keyed.put top (.name p) (.table (Keyed.put inner (.name key) (.text value)))

/-- The settings in the variables of the surroundings: `Settings.overrides`. An empty variable sets
nothing. -/
def layer (env : Environment) : Document :=
  .table <| settingNames.foldl (fun top (ending, part, key) =>
    match Keyed.get? env (stem ++ ending) with
    | none => top
    | some v => if v.isEmpty then top else place top part key v) []

end Environment

end GpuMetrics
