import GpuMetrics.Config.Basic
import GpuMetrics.Field.Resolution
import GpuMetrics.Metric.Naming

/-!
# The collector

What a collector knows before its first scrape: the tool, the fields and their headers, and the name
and unit of each metric. None of it changes afterwards.
-/

namespace GpuMetrics

/-- What a shutdown listener does when it is told of a failed run: it writes to the log, may request
a stop, and may end in a fault. -/
structure Reaction where
  records : List Log.Record
  requestsStop : Bool
  fault : Option Fault

/-- Is told of a run that ended with an exit code other than zero. -/
abbrev Listener := RunFailure → Reaction

/-- A collector of the tool's readings: what a `GPUCollector` has that no scrape changes. -/
structure Collector where
  smi : Smi
  /-- What every metric name begins with. -/
  stem : String
  /-- Which names metrics may have. -/
  rule : Metric.NameRule
  /-- Who is told when the tool exits with an error, if anyone is. -/
  listener : Option Listener
  /-- The fields and their headers. -/
  mapping : Field.Mapping
  /-- The metric of each field that has a header. -/
  infos : Keyed String Metric.Info

namespace Collector

/-- The channel that a collector logs on. -/
def channelName : String := "GPUCollector"

/-- The channel of the collector. -/
def channel (c : Collector) : String := c.smi.channel

/-- The fields that the collector asks for. -/
def queryFields (c : Collector) : List String := c.mapping.queryFields

variable {σ : Type}

/-- The tool that the settings name. -/
def smiOf (settings : CollectorSettings) (channel : String) : Except Fault Smi :=
  Smi.ofCommand settings.command.outline (some settings.commandTimeout)
    (Log.subchannel channel channelName)

/-- The mapping that the settings lead to. -/
def mappingOf (settings : CollectorSettings) (smi : Smi) (runner : Runner σ) :
    Session σ Field.Mapping :=
  match Field.Request.parse settings.queryFieldNames.outline with
  | .ok request => Field.resolve request smi runner
  | .error e => throw (.malformed e)

/-- The collector of a mapping. -/
def ofMapping (settings : CollectorSettings) (rule : Metric.NameRule) (listener : Option Listener)
    (smi : Smi) (mapping : Field.Mapping) : Collector :=
  { smi := smi
    stem := settings.stem
    rule := rule
    listener := if settings.shutdownOnError then listener else none
    mapping := mapping
    infos := Metric.infos settings.stem mapping.returnedFields }

/-- The records of a new collector: the names that had to be cleaned, and the fields. -/
def openingRecords (c : Collector) : List Log.Record :=
  Metric.namingRecords c.channel c.mapping.returnedFields ++
  [{ channel := c.channel
     level := .info
     message := "GPU collector initialized with " ++ Text.integerText c.queryFields.length
       ++ " query fields"
     extra := [("query_fields", .list (c.queryFields.map .ofString)), ("prefix", .text c.stem)] }]

/-- The collector that the settings lead to, as the constructor of `GPUCollector` makes it. A
mapping that is known already is not learned from the tool. The listener is told of failed runs only
if the settings say so. -/
def build (settings : CollectorSettings) (rule : Metric.NameRule) (listener : Option Listener)
    (channel : String) (known : Option Field.Mapping) (runner : Runner σ) :
    Session σ Collector := do
  let smi ← Session.ofExcept (smiOf settings channel)
  let mapping ← match known with
    | some m => pure m
    | none => mappingOf settings smi runner
  let c := ofMapping settings rule listener smi mapping
  Session.logAll c.openingRecords
  return c

end Collector

end GpuMetrics
