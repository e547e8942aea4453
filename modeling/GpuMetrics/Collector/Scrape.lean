import GpuMetrics.Collector.Basic
import GpuMetrics.Reading

/-!
# Scrapes

A scrape asks the tool for a table once. If that works, its families are the exit code, what tells
the devices apart, and one family for each field in the order of the query; a cell that is no number
gives no sample and a record in the log. If it fails, they are the exit code and the number of
failures so far.
-/

namespace GpuMetrics.Collector

/-! ## Names and descriptions -/

/-- The name of the counter of failed scrapes. -/
def failedScrapesName (c : Collector) : String := Metric.qualified c.stem "failed_scrapes_total"

/-- The name of the gauge of the exit code. -/
def exitCodeName (c : Collector) : String := Metric.qualified c.stem "command_exit_code"

/-- The name of the gauge that tells devices apart. -/
def gpuInfoName (c : Collector) : String := Metric.qualified c.stem "gpu_info"

/-- The labels that tell devices apart. -/
def infoLabels : List String := Field.required.map (·.label)

/-- The description of the gauge that tells devices apart. -/
def gpuInfoDocumentation : String :=
  "A metric with a constant '1' value labeled by gpu " ++ Text.joined ", " infoLabels ++ "."

/-! ## Families without a table -/

/-- A calculation on names as part of a session. -/
def named {α : Type} (r : Except Metric.NameFault α) : Except Fault α := r.mapError Fault.name

/-- The counter of failed scrapes without a sample: `_failed_scrapes_family`. -/
def failedScrapesFamily (c : Collector) : Except Fault Metric.Family :=
  named (Metric.counter c.rule c.failedScrapesName "Number of failed scrapes")

/-- The gauge of the exit code without a sample: `_exit_code_family`. -/
def exitCodeFamily (c : Collector) : Except Fault Metric.Family :=
  named (Metric.gauge c.rule c.exitCodeName "Exit code of the last scrape command")

/-- The gauge that tells devices apart without a sample: `_gpu_info_family`. -/
def gpuInfoFamily (c : Collector) : Except Fault Metric.Family :=
  named (Metric.gauge c.rule c.gpuInfoName gpuInfoDocumentation)

/-- The gauge of the exit code. -/
def exitCodeSample (c : Collector) (code : Int) : Except Fault Metric.Family :=
  c.exitCodeFamily.map fun f => f.withSample [] (Decimal.ofInt code)

/-- The counter of failed scrapes. -/
def failedScrapesSample (c : Collector) (count : Nat) : Except Fault Metric.Family :=
  c.failedScrapesFamily.map fun f => f.withSample [] (Decimal.ofInt count)

/-- The record of a field whose metric may not have its name. -/
def nameRecord (c : Collector) (field : String) (info : Metric.Info) (e : Metric.NameFault) :
    Log.Record :=
  { channel := c.channel
    level := .error
    message := "Cannot export query field " ++ Text.quoted field ++ " as "
      ++ Text.quoted info.name ++ ": " ++ e.message
    extra := [("query_field", .text field), ("metric_name", .text info.name)] }

/-- The gauge of a field without samples: `_field_family`. -/
def fieldFamily (c : Collector) (info : Metric.Info) : Except Metric.NameFault Metric.Family :=
  Metric.gauge c.rule info.name info.documentation

/-- The gauges of all fields whose metrics may have their names, without samples. -/
def fieldFamilies (c : Collector) : Keyed String Metric.Family :=
  c.infos.filterMap fun (field, info) =>
    (c.fieldFamily info).toOption.map fun f => (field, f)

/-- The records of the fields whose metrics may not have their names. -/
def fieldRecords (c : Collector) : List Log.Record :=
  c.infos.filterMap fun (field, info) =>
    match c.fieldFamily info with
    | .ok _ => none
    | .error e => some (c.nameRecord field info e)

variable {σ : Type}

/-- Every family that a scrape can give, without samples and without running the tool: `describe` of
the collector. -/
def describe (c : Collector) : Session σ (List Metric.Family) := do
  Session.logAll c.fieldRecords
  let failed ← Session.ofExcept c.failedScrapesFamily
  let exit ← Session.ofExcept c.exitCodeFamily
  let info ← Session.ofExcept c.gpuInfoFamily
  return c.fieldFamilies.map (·.2) ++ [failed, exit, info]

/-! ## Families of a table -/

/-- What the tool puts in front of the identifier of a device. -/
def uuidMark : String := "gpu-"

/-- A text without a mark in front of it, if it has it. -/
def withoutMark (mark s : String) : String :=
  if Text.startsWith mark s then String.ofList (s.toList.drop mark.toList.length) else s

/-- The identifier of a device in small letters, without the mark in front of it: `_device_uuid`. -/
def deviceUuid (row : Row) : String :=
  withoutMark uuidMark (Text.lowered (row.rawValue Field.uuid ""))

/-- The labels that tell a device apart. -/
def infoSampleLabels (row : Row) : List (String × String) :=
  Field.required.map fun f =>
    (f.label, if f.queryField = Field.uuid then deviceUuid row else row.rawValue f.queryField "")

/-- Families that grow while a table is gone through, and the records so far. -/
structure Harvest where
  info : Metric.Family
  fields : Keyed String Metric.Family
  records : List Log.Record

/-- The record of a cell that is no number. -/
def cellRecord (c : Collector) (cell : Cell) (e : Reading.Fault) : Log.Record :=
  { channel := c.channel
    level := .debug
    message := "Failed to transform raw value: " ++ e.message
    extra := [("query_field", .text cell.queryField), ("raw_value", .text cell.rawValue)] }

/-- Takes in a cell of a device, as the inner loop of `_table_families` does: a sample if its field
has a family and the cell is a number. -/
def takeCell (c : Collector) (device : String) (h : Harvest) (cell : Cell) : Harvest :=
  match Keyed.get? h.fields cell.queryField, Keyed.get? c.infos cell.queryField with
  | some _, some info =>
    match Reading.ofCell cell.rawValue info.multiplier with
    | .ok x =>
      { h with fields :=
          Keyed.change h.fields cell.queryField fun f => f.withSample [("uuid", device)] x }
    | .error e => { h with records := h.records ++ [c.cellRecord cell e] }
  | _, _ => h

/-- Takes in the row of a device: one turn of the loop over the rows in `_table_families`. -/
def takeRow (c : Collector) (h : Harvest) (row : Row) : Harvest :=
  let device := deviceUuid row
  let h := { h with info := h.info.withSample (infoSampleLabels row) 1 }
  row.cells.foldl (c.takeCell device) h

/-- What a table gives, row by row and cell by cell. -/
def harvest (c : Collector) (info : Metric.Family) (table : Table) : Harvest :=
  table.rows.foldl c.takeRow ⟨info, c.fieldFamilies, []⟩

/-- The families of a harvest: what tells the devices apart, then the fields in the order of the
query. -/
def familiesOf (c : Collector) (h : Harvest) : List Metric.Family :=
  h.info :: c.queryFields.filterMap fun q => Keyed.get? h.fields q

/-- The families of a table: `_table_families`. -/
def tableFamilies (c : Collector) (table : Table) : Session σ (List Metric.Family) := do
  let info ← Session.ofExcept c.gpuInfoFamily
  let h := c.harvest info table
  Session.logAll (c.fieldRecords ++ h.records)
  return c.familiesOf h

/-! ## Scraping -/

/-- The table that the tool prints now: `_run_query`. The exit code of the run is kept in the
health; it counts as unknown if the output is no table. -/
def runQuery (c : Collector) (runner : Runner σ) : Session σ Table := do
  let command := c.smi.queryCommand c.queryFields
  match ← Session.attempt (c.smi.run runner command) with
  | .error e =>
    match e with
    | .run f => Session.setHealth fun h => { h with lastExitCode := f.exitCode }
    | _ => pure ()
    throw e
  | .ok result =>
    match Table.parse result.stdout c.queryFields with
    | .error m =>
      Session.setHealth fun h => { h with lastExitCode := unknownExitCode }
      throw (.run
        ⟨.unreadable m.message, command, unknownExitCode, result.stdout, result.stderr⟩)
    | .ok table =>
      Session.setHealth fun h => { h with lastExitCode := result.exitCode }
      return table

/-- The record of a failed scrape. -/
def failureRecord (c : Collector) (f : RunFailure) : Log.Record :=
  { channel := c.channel
    level := .error
    message := "Failed to collect metrics: " ++ f.message
    extra := [("exit_code", .integer f.exitCode), ("command", .text (commandText f.command)),
      ("stdout", .text f.stdout), ("stderr", .text f.stderr)] }

/-- Tells the listener of a failed run. -/
def notify (listener : Listener) (f : RunFailure) : Session σ Unit := do
  let reaction := listener f
  Session.change fun s => { s with
    notices := s.notices ++ [f]
    records := s.records ++ reaction.records
    stopped := s.stopped || reaction.requestsStop }
  match reaction.fault with
  | some e => throw e
  | none => return ()

/-- Tells the listener, if there is one, of a run that ended with an exit code other than zero. Only
there does `_handle_failure` call back. -/
def announce (c : Collector) (f : RunFailure) : Session σ Unit :=
  match c.listener with
  | some listener =>
    if f.cause.isExit then do
      Session.note c.channel .error "nvidia-smi exited with an error, requesting shutdown"
      notify listener f
    else return ()
  | none => return ()

/-- Counts a failed scrape and gives its two families, as `_handle_failure` does. -/
def failureFamilies (c : Collector) (f : RunFailure) : Session σ (List Metric.Family) := do
  Session.setHealth fun h => { h with failedScrapes := h.failedScrapes + 1 }
  Session.log (c.failureRecord f)
  c.announce f
  let health ← Session.look Site.health
  let exit ← Session.ofExcept (c.exitCodeSample health.lastExitCode)
  let failed ← Session.ofExcept (c.failedScrapesSample health.failedScrapes)
  return [exit, failed]

/-- The families of one scrape. -/
structure Yield where
  families : List Metric.Family
  /-- Whether the scrape failed. -/
  failed : Bool

/-- Scrapes once: `_scrape`. Only a failed run is a failed scrape; any other fault ends the
session. -/
def scrape (c : Collector) (runner : Runner σ) : Session σ Yield := do
  Session.setHealth fun h => { h with state := .scraping }
  match ← Session.attempt (c.runQuery runner) with
  | .error (.run f) =>
    Session.setHealth fun h => { h with state := .failure }
    return ⟨← c.failureFamilies f, true⟩
  | .error e => throw e
  | .ok table =>
    Session.setHealth fun h => { h with state := .success }
    let health ← Session.look Site.health
    let exit ← Session.ofExcept (c.exitCodeSample health.lastExitCode)
    return ⟨exit :: (← c.tableFamilies table), false⟩

end GpuMetrics.Collector
