import GpuMetrics.Command.Basic
import GpuMetrics.Decimal.Numeral
import GpuMetrics.Field.Catalog
import GpuMetrics.Field.Request
import GpuMetrics.Metric.Family
import GpuMetrics.Table
import GpuMetrics.Text.ShellWords

/-!
# Faults

Everything that can go wrong between a command line and the samples of a scrape.
-/

namespace GpuMetrics

/-- A help text that lists no field, with the command that printed it and what else it printed: a
`NoQueryFieldsError`. -/
structure NoFields where
  command : List String
  stdout : String
  stderr : String
  deriving DecidableEq, Repr

/-- How a message names the fault. -/
def NoFields.message (e : NoFields) : String :=
  "could not extract any query fields: command: " ++ commandText e.command ++ " | stdout: "
    ++ e.stdout ++ " | stderr: " ++ e.stderr

/-- What can go wrong between a command line and the samples of a scrape. -/
inductive Fault
  | /-- A run failed. -/
    run (failure : RunFailure)
  | /-- The surroundings of a run raised trouble. -/
    trouble (trouble : Trouble)
  | /-- A command line cannot be cut into words. -/
    words (fault : Text.ShellWords.Fault)
  | /-- A command line has no words. -/
    emptyCommand
  | /-- An answer has another number of cells than there are fields. -/
    mismatch (mismatch : Table.Mismatch)
  | /-- The help text lists no field. -/
    noFields (fault : NoFields)
  | /-- The catalog does not have a field. -/
    unexpected (fault : Field.Unexpected)
  | /-- A name is missing in a list of fields. -/
    malformed (fault : Field.Malformed)
  | /-- A family may not have its name. -/
    name (fault : Metric.NameFault)
  | /-- Names that are taken already are registered again. -/
    taken (names : List String)

namespace Fault

/-- The message of the fault. -/
def message : Fault → String
  | run f => f.message
  | trouble t => t.message
  | words e => e.message
  | emptyCommand => "nvidia-smi command must not be empty"
  | mismatch m => m.message
  | noFields e => e.message
  | unexpected e => e.message
  | malformed e => e.message
  | name e => e.message
  | taken names => Text.joined ", " names

/-- Whether the fault lies in a value that was given, and not in a run or in its surroundings. -/
def isValueFault : Fault → Bool
  | run _ => false
  | trouble t => t.kind = .value
  | _ => true

end Fault

end GpuMetrics
