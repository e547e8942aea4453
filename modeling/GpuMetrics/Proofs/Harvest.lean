import GpuMetrics.Proofs.Resolved
import GpuMetrics.Proofs.Scrape
import Mathlib.Data.List.Basic

/-!
# What a successful scrape exports

A table is gone through row by row and cell by cell, and all families grow meanwhile. Here the
families are written down column by column instead: `Collector.reference` has the samples of each
family in the order of the rows, and `Collector.complaints` the records of the cells that are no
numbers. A scrape that finds a table gives just these (`scrape_eq_reference`).

The link between the two is `gathered`, the state of the walk in terms of the rows that were seen.
One row leads from the state of some rows to the state of one row more (`takeRow_gathered`), because
the columns of a row are the query fields and no field stands twice among them.
-/

namespace GpuMetrics.Collector

/-! ## The families of a table, column by column -/

/-- The identifier of a device: a text in small letters, without one `gpu-` in front of it. -/
def normalUuid (text : String) : String :=
  match (Text.lowered text).toList with
  | 'g' :: 'p' :: 'u' :: '-' :: rest => String.ofList rest
  | _ => Text.lowered text

/-- The identifier of the device of a row. -/
def uuidOf (row : Row) : String := normalUuid (row.text "uuid")

/-- The labels that tell the device of a row apart: its identifier, and the texts in the cells of
the five other required fields. -/
def deviceLabels (row : Row) : List (String × String) := [
  ("uuid", uuidOf row),
  ("name", row.text "name"),
  ("driver_model_current", row.text "driver_model.current"),
  ("driver_model_pending", row.text "driver_model.pending"),
  ("vbios_version", row.text "vbios_version"),
  ("driver_version", row.text "driver_version")]

variable (c : Collector)

/-- The gauge that tells the devices of some rows apart. -/
def infoGauge (rows : List Row) : Metric.Family :=
  Metric.gaugeWith c.gpuInfoName gpuInfoDocumentation (rows.map fun row => (deviceLabels row, 1))

/-- The query fields whose metrics may have their names, in the order of the query. -/
def exported : List String :=
  c.queryFields.filter fun field => (c.rule.check (c.fieldInfo field).name).isOk

/-- The number that the cell of a field holds, by the factor of the field. -/
def reading (field : String) (row : Row) : Except Reading.Fault Float :=
  Reading.ofCell (row.text field) (c.fieldInfo field).multiplier

/-- The value of a field in a row, if its cell is a number, under the identifier of the device. -/
def value? (field : String) (row : Row) : Option Metric.Labelled :=
  match c.reading field row with
  | .ok x => some ([("uuid", uuidOf row)], x)
  | .error _ => none

/-- The record of the cell of a field, if it is no number. -/
def complaint? (field : String) (row : Row) : Option Log.Record :=
  match c.reading field row with
  | .ok _ => none
  | .error e => some
    { channel := c.channel
      level := .debug
      message := "Failed to transform raw value: " ++ e.message
      extra := [("query_field", .text field), ("raw_value", .text (row.text field))] }

/-- The gauge of a field for some rows. -/
def fieldGauge (rows : List Row) (field : String) : Metric.Family :=
  Metric.gaugeWith (c.fieldInfo field).name (c.fieldInfo field).documentation
    (rows.filterMap (c.value? field))

/-- The families of a table: the exit code zero, what tells the devices apart, and one gauge for
each field that is exported. -/
def reference (t : Table) : List Metric.Family :=
  Metric.gaugeWith c.exitCodeName exitCodeDocumentation [([], 0)] ::
    c.infoGauge t.rows :: c.exported.map (c.fieldGauge t.rows)

/-- The records of the cells that are no numbers, row by row in the order of the query. -/
def complaints (rows : List Row) : List Log.Record :=
  rows.flatMap fun row => c.exported.filterMap fun field => c.complaint? field row

/-- A cell gives a sample or a record, and never both. -/
theorem isSome_value?_iff (field : String) (row : Row) :
    (c.value? field row).isSome ↔ c.complaint? field row = none := by
  unfold value? complaint?
  cases c.reading field row <;> simp

/-! ## What the walk looks up -/

/-- The mark in front of an identifier is taken off once. -/
theorem withoutMark_lowered (s : String) :
    withoutMark uuidMark (Text.lowered s) = normalUuid s := by
  have hmark : uuidMark.toList = ['g', 'p', 'u', '-'] := rfl
  rw [withoutMark, normalUuid, Text.startsWith, hmark]
  generalize Text.lowered s = l
  split
  · next hprefix =>
    obtain ⟨rest, hrest⟩ := List.isPrefixOf_iff_prefix.mp hprefix
    rw [← hrest]
    rfl
  · next hprefix =>
    split
    · next rest hrest => simp [hrest] at hprefix
    · rfl

example : withoutMark uuidMark (Text.lowered "GPU-gpu-7F") = "gpu-7f" := by decide

variable {c : Collector} {row : Row}

/-- In a row in which no field stands twice, the identifier of the device is that of the text in its
cell. -/
theorem deviceUuid_eq (hrow : (row.cells.map (·.queryField)).Nodup) :
    deviceUuid row = uuidOf row := by
  rw [deviceUuid, Row.rawValue_eq_text hrow, withoutMark_lowered]
  rfl

/-- In a row in which no field stands twice, the labels of the device are the texts in their
cells. -/
theorem infoSampleLabels_eq (hrow : (row.cells.map (·.queryField)).Nodup) :
    infoSampleLabels row = deviceLabels row := by
  simp only [infoSampleLabels, Row.rawValue_eq_text hrow, deviceUuid_eq hrow]
  simp [Field.required, Field.uuid, deviceLabels]

/-- A field is exported if it is a query field and its metric may have its name. -/
theorem mem_exported {field : String} :
    field ∈ c.exported ↔
      field ∈ c.queryFields ∧ (c.rule.check (c.fieldInfo field).name).isOk = true :=
  List.mem_filter

/-- No field is exported twice. -/
theorem nodup_exported (hc : c.Resolved) : c.exported.Nodup :=
  hc.sound.nodup.filter _

/-- What is made of the exported fields is made of those query fields whose metrics may have their
names. -/
theorem map_exported {β : Type} (g : String → β) :
    c.exported.map g = c.queryFields.filterMap fun field =>
      if (c.rule.check (c.fieldInfo field).name).isOk then some (g field) else none := by
  rw [exported, ← List.filterMap_eq_map', List.filterMap_filter]

/-- A field has a gauge if its metric may have its name. -/
theorem fieldFamily_toOption (field : String) :
    (c.fieldFamily (c.fieldInfo field)).toOption =
      if (c.rule.check (c.fieldInfo field).name).isOk then some (c.fieldGauge [] field)
      else none := by
  rw [fieldFamily, Metric.gauge]
  cases c.rule.check (c.fieldInfo field).name <;> rfl

/-- The gauges that the walk starts with are those of the exported fields, without samples. -/
theorem fieldFamilies_eq (hc : c.Resolved) :
    c.fieldFamilies = c.exported.map fun field => (field, c.fieldGauge [] field) := by
  rw [fieldFamilies, hc.infos_eq_map, List.filterMap_map, map_exported]
  refine List.filterMap_congr fun field _ => ?_
  simp only [Function.comp_apply, fieldFamily_toOption]
  split <;> rfl

/-! ## One cell -/

/-- The walk with the given values of each exported field. -/
def partly (c : Collector) (info : Metric.Family) (values : String → List Metric.Labelled)
    (records : List Log.Record) : Harvest where
  info := info
  fields := c.exported.map fun field => (field,
    Metric.gaugeWith (c.fieldInfo field).name (c.fieldInfo field).documentation (values field))
  records := records

/-- A cell of a row goes to its own field and to no other, and only if the field is exported: as a
value if it is a number, and else as a record. -/
theorem takeCell_partly (hc : c.Resolved) {cell : Cell}
    (hcell : row.text cell.queryField = cell.rawValue) (info : Metric.Family)
    (values : String → List Metric.Labelled) (records : List Log.Record) :
    c.takeCell (uuidOf row) (c.partly info values records) cell =
      c.partly info
        (fun field => values field ++
          if field = cell.queryField then (c.value? cell.queryField row).toList else [])
        (records ++ if cell.queryField ∈ c.exported then
          (c.complaint? cell.queryField row).toList else []) := by
  by_cases hexported : cell.queryField ∈ c.exported
  · -- The field has a gauge and a metric, so the cell is read.
    have hquery := (mem_exported.mp hexported).1
    simp only [takeCell, partly, Keyed.get?_of_keys, hc.infos_eq_map, hexported, hquery, if_true,
      Keyed.change_of_keys (nodup_exported hc), Metric.withSample_gaugeWith]
    rw [value?, complaint?, reading, hcell]
    cases Reading.ofCell cell.rawValue (c.fieldInfo cell.queryField).multiplier with
    | ok x =>
      simp only [Option.toList_some, Option.toList_none, List.append_nil, Harvest.mk.injEq,
        true_and, and_true]
      refine List.map_congr_left fun field _ => ?_
      by_cases hfield : field = cell.queryField <;> simp [hfield]
    | error e =>
      simp only [Option.toList_some, Option.toList_none, ite_self, List.append_nil]
      rfl
  · -- Without a gauge the cell is skipped, and it belongs to none of the gauges that there are.
    have hother : ∀ field ∈ c.exported, field ≠ cell.queryField := fun field hfield heq =>
      hexported (heq ▸ hfield)
    simp only [takeCell, partly, Keyed.get?_of_keys, hexported, if_false, List.append_nil,
      Harvest.mk.injEq, true_and, and_true]
    refine List.map_congr_left fun field hfield => ?_
    rw [if_neg (hother field hfield), List.append_nil]

/-! ## One row -/

/-- The cells of a row, taken in one after the other, add the values and the records of their
fields. -/
theorem foldl_takeCell (hc : c.Resolved) (cells : List Cell)
    (hcells : ∀ cell ∈ cells, row.text cell.queryField = cell.rawValue) (info : Metric.Family)
    (values : String → List Metric.Labelled) (records : List Log.Record) :
    cells.foldl (c.takeCell (uuidOf row)) (c.partly info values records) =
      c.partly info
        (fun field => values field ++ (cells.map (·.queryField)).flatMap fun other =>
          if field = other then (c.value? other row).toList else [])
        (records ++ (cells.map (·.queryField)).flatMap fun field =>
          if field ∈ c.exported then (c.complaint? field row).toList else []) := by
  induction cells generalizing values records with
  | nil => simp
  | cons cell rest ih =>
    rw [List.foldl_cons, takeCell_partly hc (hcells cell (by simp)),
      ih fun other hother => hcells other (by simp [hother])]
    simp only [List.map_cons, List.flatMap_cons, List.append_assoc]

/-- What stands under one name in a list without repeats. -/
theorem flatMap_ite_of_mem {β : Type} (names : List String) (hnames : names.Nodup)
    {name : String} (hname : name ∈ names) (g : String → List β) :
    (names.flatMap fun other => if name = other then g other else []) = g name := by
  induction names with
  | nil => simp at hname
  | cons first rest ih =>
    rw [List.nodup_cons] at hnames
    rw [List.flatMap_cons]
    rcases List.mem_cons.mp hname with rfl | hrest
    · have hnone : (rest.flatMap fun other => if name = other then g other else []) = [] :=
        List.flatMap_eq_nil_iff.mpr fun other hother =>
          if_neg fun heq : name = other => hnames.1 (heq ▸ hother)
      rw [if_pos rfl, hnone, List.append_nil]
    · have hfirst : name ≠ first := fun heq => hnames.1 (heq ▸ hrest)
      rw [if_neg hfirst, List.nil_append, ih hnames.2 hrest]

/-- The records of the exported fields of a row are those of the query fields that are exported. -/
theorem filterMap_exported (row : Row) :
    (c.exported.filterMap fun field => c.complaint? field row) =
      c.queryFields.flatMap fun field =>
        if field ∈ c.exported then (c.complaint? field row).toList else [] := by
  conv_lhs => rw [exported]
  rw [List.filterMap_filter, List.filterMap_eq_flatMap_toList]
  refine List.flatMap_congr fun field hfield => ?_
  simp only [mem_exported, hfield, true_and]
  split <;> rfl

/-- The walk when some rows were seen. -/
def gathered (c : Collector) (rows : List Row) : Harvest :=
  c.partly (c.infoGauge rows) (fun field => rows.filterMap (c.value? field)) (c.complaints rows)

/-- A row whose columns are the query fields leads from the state of some rows to that of one row
more. -/
theorem takeRow_gathered (hc : c.Resolved) (hrow : row.cells.map (·.queryField) = c.queryFields)
    (rows : List Row) : c.takeRow (c.gathered rows) row = c.gathered (rows ++ [row]) := by
  have hnodup : (row.cells.map (·.queryField)).Nodup := hrow ▸ hc.sound.nodup
  have hinfo : (c.infoGauge rows).withSample (infoSampleLabels row) 1 =
      c.infoGauge (rows ++ [row]) := by
    rw [infoGauge, Metric.withSample_gaugeWith, infoSampleLabels_eq hnodup, infoGauge,
      List.map_append]
    rfl
  have hcells := foldl_takeCell hc row.cells (fun _ => Row.text_of_mem hnodup)
    (c.infoGauge (rows ++ [row])) (fun field => rows.filterMap (c.value? field)) (c.complaints rows)
  calc c.takeRow (c.gathered rows) row
    _ = row.cells.foldl (c.takeCell (uuidOf row)) (c.partly (c.infoGauge (rows ++ [row]))
          (fun field => rows.filterMap (c.value? field)) (c.complaints rows)) := by
        rw [takeRow, deviceUuid_eq hnodup, gathered, partly, hinfo]
        rfl
    _ = c.gathered (rows ++ [row]) := by
        -- Each exported field stands once among the columns, so it gets one cell of the row.
        rw [hcells, hrow, ← filterMap_exported, gathered]
        simp only [partly, Harvest.mk.injEq, true_and]
        refine ⟨List.map_congr_left fun field hfield => ?_, ?_⟩
        · have hone := flatMap_ite_of_mem c.queryFields hc.sound.nodup
            (mem_exported.mp hfield).1 fun other => (c.value? other row).toList
          rw [hone, List.filterMap_append]
          cases hvalue : c.value? field row <;> simp [hvalue]
        · simp [complaints]

/-! ## All rows -/

/-- Rows whose columns are the query fields, taken in one after the other. -/
theorem foldl_takeRow (hc : c.Resolved) (rows : List Row) {more : List Row}
    (hmore : ∀ row ∈ more, row.cells.map (·.queryField) = c.queryFields) :
    more.foldl c.takeRow (c.gathered rows) = c.gathered (rows ++ more) := by
  induction more generalizing rows with
  | nil => simp
  | cons row rest ih =>
    rw [List.foldl_cons, takeRow_gathered hc (hmore row (by simp)),
      ih _ fun other hother => hmore other (by simp [hother]), List.append_assoc]
    rfl

/-- A table whose columns are the query fields is gathered row by row. -/
theorem harvest_eq (hc : c.Resolved) {t : Table}
    (ht : ∀ row ∈ t.rows, row.cells.map (·.queryField) = c.queryFields) :
    c.harvest c.emptyInfo t = c.gathered t.rows := by
  have hstart : (⟨c.emptyInfo, c.fieldFamilies, []⟩ : Harvest) = c.gathered [] := by
    rw [fieldFamilies_eq hc]
    rfl
  rw [harvest, hstart, foldl_takeRow hc [] ht, List.nil_append]

/-- The families that are picked out by the query fields are those of the exported fields. -/
theorem familiesOf_gathered (c : Collector) (rows : List Row) :
    c.familiesOf (c.gathered rows) = c.infoGauge rows :: c.exported.map (c.fieldGauge rows) := by
  rw [familiesOf, gathered, partly, map_exported (c.fieldGauge rows)]
  congr 1
  -- Among the query fields, those with a gauge are those whose metrics may have their names.
  refine List.filterMap_congr fun field hfield => ?_
  simp only [Keyed.get?_of_keys, mem_exported, hfield, true_and, fieldGauge]

/-- The families of a table that a run has printed are those of the reference. -/
theorem tableReport_eq_reference (hc : c.Resolved) {reply : Except Fault RunResult} {t : Table}
    (h : c.finding reply = .table t) : c.tableReport t = c.reference t := by
  obtain ⟨result, -, -, hparse⟩ := finding_eq_table h
  rw [tableReport, harvest_eq hc fun row hrow => Table.queryFields_of_parse hparse hrow,
    familiesOf_gathered]
  rfl

/-! ## The scrape -/

variable {σ : Type}

/-- A scrape whose run ends with the exit code zero and prints a table gives the families of the
reference, if the names of the two fixed ones are granted, as they are under an admitted stem. It
writes the records of the fields that have no family and of the cells that are no numbers, and each
cell of an exported field has a sample or a record. -/
theorem scrape_eq_reference (hc : c.Resolved) {runner : Runner σ} {site : Site σ}
    {result : RunResult} {t : Table}
    (hreply : (runner c.call site.surroundings).1.outcome = .ok result)
    (hcode : result.exitCode = 0) (hparse : Table.parse result.stdout c.queryFields = .ok t) :
    ((c.scrape runner).on site).1 = granting c.rule c.successNames ⟨c.reference t, false⟩ ∧
      (c.rule.Admits c.stem →
        ((c.scrape runner).on site).1 = .ok ⟨c.reference t, false⟩ ∧
        ((c.scrape runner).on site).2.records =
          site.records ++ c.smi.runRecords c.call.command (.ok result) ++ c.fieldRecords ++
            c.complaints t.rows) ∧
      ∀ field ∈ c.exported, ∀ row ∈ t.rows,
        (c.value? field row).isSome ↔ c.complaint? field row = none := by
  have hfinding : c.finding (runner c.call site.surroundings).1.outcome = .table t := by
    simp only [hreply, finding, hcode, hparse, if_true]
  have hharvest := harvest_eq hc fun row hrow => Table.queryFields_of_parse hparse hrow
  -- The equation of the scrape has the walk over the table in it, which the harvest replaces.
  have hscrape := scrape_of_table c runner site hfinding
  rw [hharvest, familiesOf_gathered] at hscrape
  have hgranted (hadmits : c.rule.Admits c.stem) {α : Type} (a : α) :
      granting c.rule c.successNames a = .ok a :=
    granting_fixed hadmits (fun n hn => List.mem_append_right _ hn) a
  refine ⟨congrArg (·.1) hscrape, fun hadmits => ⟨?_, ?_⟩, fun field _ row _ =>
    c.isSome_value?_iff field row⟩
  · rw [hscrape, hgranted hadmits]
    rfl
  · rw [hscrape, queried, hreply, tableRecords, hharvest, gathered, partly]
    simp only [hgranted hadmits, List.append_assoc]

/-! ## A tool with two devices -/

/-- The required fields. -/
def sixFields : List String :=
  ["uuid", "name", "driver_model.current", "driver_model.pending", "vbios_version",
    "driver_version"]

/-- The output of a tool that shows two devices by their required fields. -/
def deviceTable : String :=
  "uuid, name, driver_model.current, driver_model.pending, vbios_version, driver_version\n" ++
  "GPU-1a, T4, N/A, N/A, 90.04, 535\n" ++
  "GPU-2b, A10, N/A, N/A, 94.02, 550\n"

/-- The rows of the devices. -/
def deviceRows : List Row :=
  [Table.rowOf sixFields sixFields ["GPU-1a", "T4", "N/A", "N/A", "90.04", "535"],
    Table.rowOf sixFields sixFields ["GPU-2b", "A10", "N/A", "N/A", "94.02", "550"]]

set_option maxRecDepth 8000 in
/-- The output is a table with the required fields and two rows. -/
theorem parse_deviceTable :
    Table.parse deviceTable sixFields = .ok ⟨sixFields, sixFields, deviceRows⟩ := by
  rfl

/-- The collector of a tool that shows devices by their required fields. -/
def deviceCollector : Collector :=
  ofMapping {} .plainName none ⟨["nvidia-smi"], some 10, "GPUCollector"⟩
    (.ofLists sixFields sixFields)

/-- The mapping of the collector is the one that the tool leads to. -/
theorem resolved_deviceCollector : deviceCollector.Resolved := by
  let tool : Smi := ⟨["nvidia-smi"], some 10, "GPUCollector"⟩
  have hfields : Field.withRequired [] = sixFields := by decide
  have hshown : Field.shown? sixFields (Runner.printing 0 deviceTable (tool.queryCall sixFields)
      (Site.initial ()).surroundings).1.outcome = some ⟨sixFields, sixFields, deviceRows⟩ := by
    rw [Runner.printing, Field.shown?, if_pos rfl, parse_deviceTable]
    rfl
  have hresolve : ((Field.resolve (.explicit []) tool (.printing 0 deviceTable)).on
      (Site.initial ())).1 = .ok (.ofLists sixFields sixFields) := by
    obtain ⟨s, -, hheaders⟩ := Field.headersOf_of_shown hshown
    rw [Field.resolve, hfields, Field.mappingOf, Session.on_bind_ok _ hheaders, Session.on_pure]
  exact .ofMapping hresolve {} .plainName none tool

/-- A scrape that shows the devices gives the families of the reference. The samples of a field are
in the order of the rows, each under the identifier of its device. -/
theorem scrape_deviceTable :
    Table.parse deviceTable deviceCollector.queryFields =
        .ok ⟨sixFields, sixFields, deviceRows⟩ ∧
      ((deviceCollector.scrape (.printing 0 deviceTable)).on (Site.initial ())).1 =
        .ok ⟨deviceCollector.reference ⟨sixFields, sixFields, deviceRows⟩, false⟩ ∧
      (deviceRows.filterMap (deviceCollector.value? "driver_version")).map (·.1) =
        [[("uuid", "1a")], [("uuid", "2b")]] := by
  have hreply : (Runner.printing 0 deviceTable deviceCollector.call
      (Site.initial ()).surroundings).1.outcome =
        .ok ⟨deviceCollector.call.command, 0, deviceTable, ""⟩ := rfl
  have hscrape := scrape_eq_reference resolved_deviceCollector hreply rfl parse_deviceTable
  have hsamples : (deviceRows.filterMap (deviceCollector.value? "driver_version")).map (·.1) =
      [[("uuid", "1a")], [("uuid", "2b")]] := by decide +kernel
  exact ⟨parse_deviceTable, (hscrape.2.1 (.inr (.inr (by decide)))).1, hsamples⟩

end GpuMetrics.Collector
