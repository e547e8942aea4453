import GpuMetrics.Config.Address
import GpuMetrics.Config.Layer
import GpuMetrics.Field.Request
import GpuMetrics.Text.Digit

/-!
# Problems with settings

What can be wrong with the value of a setting, and where. A document may have many problems; they
are listed in the order of the settings.
-/

namespace GpuMetrics

/-- Why a value of the right kind is refused. -/
inductive Refusal
  | /-- No metric name can begin with the text. -/
    stem (text : Text.Wording)
  | /-- The command line is blank. -/
    blankCommand
  | /-- A name is missing in the list of fields. -/
    fields (list : Text.Wording)
  | /-- The text is no address. -/
    address (fault : Address.Fault)
  | /-- The path does not begin with a slash. -/
    relativePath
  | /-- The level is none of those that can be chosen. -/
    logLevel
  deriving DecidableEq, Repr

/-- The levels that can be chosen. -/
def logLevels : List String := ["DEBUG", "INFO", "WARNING", "ERROR", "CRITICAL"]

/-- How a message names the refusal. -/
def Refusal.message : Refusal → String
  | stem text => "Invalid metric prefix: " ++ text.quoted
  | blankCommand => "nvidia-smi command must not be empty"
  | fields list => Field.malformedHeadline ++ list.quoted
  | address e => e.message
  | relativePath => "Telemetry path must start with /"
  | logLevel => "Log level must be one of " ++ Text.joined ", " logLevels

/-- What is wrong with the value of a setting. -/
inductive Problem
  | /-- The value should be a table of the named settings. -/
    notTable (settings : String)
  | /-- The value should be a text. -/
    notText
  | /-- The value should be characters, and is bytes that make none or a text with surrogates. -/
    undecodable
  | /-- The value should be yes or no. -/
    notFlag
  | /-- The value should be yes or no and says something else. -/
    unreadableFlag
  | /-- The value should be a number. -/
    notNumber
  | /-- The value should be a number and is a text that is none. -/
    unreadableNumber
  | /-- The number is not greater than zero. -/
    notPositive
  | /-- The value is of the right kind and is refused. -/
    refused (refusal : Refusal)
  deriving DecidableEq, Repr

/-- How a message names the problem. -/
def Problem.message : Problem → String
  | notTable settings => "Input should be a valid dictionary or instance of " ++ settings
  | notText => "Input should be a valid string"
  | undecodable => "Input should be a valid string, unable to parse raw data as a unicode string"
  | notFlag => "Input should be a valid boolean"
  | unreadableFlag => "Input should be a valid boolean, unable to interpret input"
  | notNumber => "Input should be a valid number"
  | unreadableNumber => "Input should be a valid number, unable to parse string as a number"
  | notPositive => "Input should be greater than 0"
  | refused r => "Value error, " ++ r.message

/-- A problem and the keys that lead to its value. -/
structure Located where
  path : List String
  problem : Problem
  deriving DecidableEq, Repr

/-- Why a document gives no settings. -/
inductive Rejection
  | /-- The document holds something that is no table. -/
    notTable (kind : String)
  | /-- A key of the document is no text. -/
    foreignKey
  | /-- What should be laid over other settings cannot be. -/
    layer (fault : Document.LayerFault)
  | /-- Values of settings have problems. -/
    problems (list : List Located)
  deriving DecidableEq, Repr

/-- The headline of a list of problems. -/
def problemsHeadline (count : Nat) (settings : String) : String :=
  Text.integerText count ++ (if count = 1 then " validation error for " else
    " validation errors for ") ++ settings

/-- How a message names the rejection. A list of problems is named by its headline. -/
def Rejection.message : Rejection → String
  | notTable kind =>
    "nvidia_gpu_exporter.config.models.ExporterConfig() argument after ** must be a mapping, not "
      ++ kind
  | foreignKey => "keywords must be strings"
  | layer e => e.message
  | problems list => problemsHeadline list.length "ExporterConfig"

end GpuMetrics
