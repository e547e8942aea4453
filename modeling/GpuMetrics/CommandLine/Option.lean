import GpuMetrics.Text.Pieces

/-!
# Options of the command line

Which options there are, how they are spelt, whether they take a value, and what the help says of
them.
-/

namespace GpuMetrics.CommandLine

/-- The options, which `build_parser` declares. -/
inductive Choice
  | /-- Shows the help. -/
    help
  | /-- Names a file of settings. -/
    config
  | /-- Sets the address to listen on. -/
    listenAddress
  | /-- Sets the path of the metrics. -/
    telemetryPath
  | /-- Sets the command line of the tool. -/
    command
  | /-- Sets the fields to ask for. -/
    queryFieldNames
  | /-- Asks for a shutdown when the tool exits with an error. -/
    shutdownOnError
  | /-- Sets the seconds that a run of the tool may take. -/
    commandTimeout
  | /-- Sets the level of the log. -/
    logLevel
  | /-- Asks for a list of the fields that the tool supports. -/
    listQueryFields
  deriving DecidableEq, Repr

namespace Choice

/-- All options in the order of the help. -/
def all : List Choice := [
  help, config, listenAddress, telemetryPath, command, queryFieldNames, shutdownOnError,
  commandTimeout, logLevel, listQueryFields]

/-- The spellings of an option. -/
def spellings : Choice → List String
  | help => ["-h", "--help"]
  | config => ["--config"]
  | listenAddress => ["--web.listen-address"]
  | telemetryPath => ["--web.telemetry-path"]
  | command => ["--nvidia-smi-command"]
  | queryFieldNames => ["--query-field-names"]
  | shutdownOnError => ["--shutdown-on-error"]
  | commandTimeout => ["--command-timeout"]
  | logLevel => ["--log-level"]
  | listQueryFields => ["--list-query-fields"]

/-- How messages name an option. -/
def label (o : Choice) : String := Text.joined "/" o.spellings

/-- The levels of the log that can be chosen here. -/
def levels : List String := ["DEBUG", "INFO", "WARNING", "ERROR"]

/-- How the help names the value of an option, if it takes one. -/
def valueName? : Choice → Option String
  | config => some "CONFIG"
  | listenAddress => some "LISTEN_ADDRESS"
  | telemetryPath => some "TELEMETRY_PATH"
  | command => some "NVIDIA_SMI_COMMAND"
  | queryFieldNames => some "QUERY_FIELD_NAMES"
  | commandTimeout => some "COMMAND_TIMEOUT"
  | logLevel => some ("\x7b" ++ Text.joined "," levels ++ "\x7d")
  | help | shutdownOnError | listQueryFields => none

/-- Whether an option takes a value. -/
def takesValue (o : Choice) : Bool := o.valueName?.isSome

/-- What the help says of an option. -/
def description : Choice → String
  | help => "show this help message and exit"
  | config => "Path to YAML configuration file"
  | listenAddress => "Address to listen on (default: :9835)"
  | telemetryPath => "Path under which to expose metrics (default: /metrics)"
  | command => "Path or command to be used for the nvidia-smi executable"
  | queryFieldNames =>
    "Comma-separated list of query fields, or AUTO to detect them "
      ++ "(see `nvidia-smi --help-query-gpu`)"
  | shutdownOnError => "Shut down the exporter if nvidia-smi exits with an error"
  | commandTimeout => "Seconds before an nvidia-smi run is killed (default: 10)"
  | logLevel => "Logging level (default: INFO)"
  | listQueryFields => "Print the query fields supported by nvidia-smi and exit"

/-- Every spelling with its option. -/
def spelt : List (String × Choice) := all.flatMap fun o => o.spellings.map fun s => (s, o)

end Choice

end GpuMetrics.CommandLine
