import GpuMetrics.Config.Check
import GpuMetrics.Proofs.Harvest
import Mathlib.Data.List.Nodup
import Mathlib.Data.List.Pairwise

/-!
# Time series

A time series is a name with labels, and a scrape should have at most one sample for each. If the
devices have different identifiers, the samples of one family are apart by the identifier in their
labels, and the fixed families are apart from all others by the names of their labels. What is left
are two fields whose metrics have one name, as the tool may answer to two fields with one header:
their samples for a device are one time series. `apart_reference_iff` says that there is no other
way, and `scrape_apart_iff` says so for what a scrape gives.
-/

namespace GpuMetrics

namespace Metric

/-- Whether two samples belong to one time series: they have the same name and the same labels, in
whatever order. -/
def Sample.SameSeries (a b : Sample) : Prop :=
  a.name = b.name ∧ ∀ label, label ∈ a.labels ↔ label ∈ b.labels

/-- Whether the samples of some families belong to different time series. -/
def Apart (families : List Family) : Prop :=
  (families.flatMap (·.samples)).Pairwise fun a b => ¬ a.SameSeries b

/-- The samples of families are apart if those of the first one are, those of the others are, and
none of the first belongs to the same time series as one of the others. -/
theorem apart_cons {f : Family} {rest : List Family} :
    Apart (f :: rest) ↔ f.samples.Pairwise (fun a b => ¬ a.SameSeries b) ∧ Apart rest ∧
      ∀ a ∈ f.samples, ∀ g ∈ rest, ∀ b ∈ g.samples, ¬ a.SameSeries b := by
  rw [Apart, List.flatMap_cons, List.pairwise_append]
  simp only [List.mem_flatMap, Apart]
  constructor
  · rintro ⟨hfirst, hrest, hacross⟩
    exact ⟨hfirst, hrest, fun a ha g hg b hb => hacross a ha b ⟨g, hg, hb⟩⟩
  · rintro ⟨hfirst, hrest, hacross⟩
    exact ⟨hfirst, hrest, fun a ha b ⟨g, hg, hb⟩ => hacross a ha g hg b hb⟩

end Metric

namespace Collector

open GpuMetrics.Metric (Apart Sample)

/-! ## Samples of devices -/

/-- A device has one identifier among its labels. -/
theorem mem_deviceLabels_uuid {row : Row} {uuid : String} :
    ("uuid", uuid) ∈ deviceLabels row ↔ uuid = uuidOf row := by
  simp [deviceLabels]

/-- Rows with different identifiers have samples that are apart, if each has its identifier among
its labels. -/
theorem pairwise_of_uuids {rows : List Row} (huuids : (rows.map uuidOf).Nodup)
    {sample? : Row → Option Sample}
    (hlabels : ∀ row a, sample? row = some a →
      ∀ uuid, ("uuid", uuid) ∈ a.labels ↔ uuid = uuidOf row) :
    (rows.filterMap sample?).Pairwise fun a b => ¬ a.SameSeries b := by
  rw [List.nodup_iff_pairwise_ne, List.pairwise_map] at huuids
  rw [List.pairwise_filterMap]
  refine huuids.imp fun {row row'} hne a ha b hb hsame => hne ?_
  have hmem : ("uuid", uuidOf row) ∈ b.labels :=
    (hsame.2 _).mp ((hlabels row a ha _).mpr rfl)
  exact (hlabels row' b hb _).mp hmem

variable {c : Collector}

/-- A sample of the gauge that tells the devices apart is that of a row. -/
theorem mem_samples_infoGauge {rows : List Row} {a : Sample} :
    a ∈ (c.infoGauge rows).samples ↔ ∃ row ∈ rows, ⟨c.gpuInfoName, deviceLabels row, 1⟩ = a := by
  rw [infoGauge, Metric.gaugeWith, List.map_map, List.mem_map]
  rfl

/-- The samples of the gauge that tells the devices apart are apart. -/
theorem pairwise_infoGauge {rows : List Row} (huuids : (rows.map uuidOf).Nodup) :
    (c.infoGauge rows).samples.Pairwise fun a b => ¬ a.SameSeries b := by
  have hsamples : (c.infoGauge rows).samples =
      rows.filterMap fun row => some ⟨c.gpuInfoName, deviceLabels row, 1⟩ := by
    rw [infoGauge, Metric.gaugeWith, List.map_map, List.filterMap_eq_map']
    rfl
  rw [hsamples]
  refine pairwise_of_uuids huuids fun row a ha uuid => ?_
  cases ha
  exact mem_deviceLabels_uuid

/-! ## Samples of fields -/

/-- The value of a field stands under the identifier of the device. -/
theorem value?_eq_some {field : String} {row : Row} {v : Metric.Labelled}
    (h : c.value? field row = some v) : v.1 = [("uuid", uuidOf row)] := by
  unfold value? at h
  cases hreading : c.reading field row with
  | ok x =>
    rw [hreading] at h
    cases h
    rfl
  | error e =>
    rw [hreading] at h
    cases h

/-- A sample of the gauge of a field is that of a row which has a value for the field. -/
theorem mem_samples_fieldGauge {rows : List Row} {field : String} {a : Sample} :
    a ∈ (c.fieldGauge rows field).samples ↔
      ∃ row ∈ rows, ∃ v, c.value? field row = some v ∧
        a = ⟨(c.fieldInfo field).name, [("uuid", uuidOf row)], v.2⟩ := by
  rw [fieldGauge, Metric.gaugeWith, List.mem_map]
  constructor
  · rintro ⟨v, hv, rfl⟩
    obtain ⟨row, hrow, hvalue⟩ := List.mem_filterMap.mp hv
    exact ⟨row, hrow, v, hvalue, by rw [value?_eq_some hvalue]⟩
  · rintro ⟨row, hrow, v, hvalue, rfl⟩
    exact ⟨v, List.mem_filterMap.mpr ⟨row, hrow, hvalue⟩, by rw [value?_eq_some hvalue]⟩

/-- The samples of the gauge of a field are apart. -/
theorem pairwise_fieldGauge {rows : List Row} (huuids : (rows.map uuidOf).Nodup)
    (field : String) :
    (c.fieldGauge rows field).samples.Pairwise fun a b => ¬ a.SameSeries b := by
  rw [fieldGauge, Metric.gaugeWith, List.map_filterMap]
  refine pairwise_of_uuids huuids fun row a ha uuid => ?_
  obtain ⟨v, hvalue, rfl⟩ := Option.map_eq_some_iff.mp ha
  simp [value?_eq_some hvalue]

variable (c)

/-- Whether two fields are kept apart in some rows: their metrics have different names, or no row
has a value for both. -/
def KeptApart (rows : List Row) (f g : String) : Prop :=
  (c.fieldInfo f).name = (c.fieldInfo g).name →
    ∀ row ∈ rows, c.value? f row = none ∨ c.value? g row = none

variable {c}

/-- Two fields that are kept apart may be looked at in any order. -/
instance KeptApart.symm (rows : List Row) : Std.Symm (c.KeptApart rows) where
  symm _ _ h := fun hname row hrow => (h hname.symm row hrow).symm

/-- The samples of two fields are apart exactly if the fields are kept apart. -/
theorem keptApart_iff {rows : List Row} (huuids : (rows.map uuidOf).Nodup) {f g : String} :
    (∀ a ∈ (c.fieldGauge rows f).samples, ∀ b ∈ (c.fieldGauge rows g).samples,
      ¬ a.SameSeries b) ↔ c.KeptApart rows f g := by
  constructor
  · intro h hname row hrow
    by_contra hboth
    rw [not_or, ← ne_eq, ← ne_eq, Option.ne_none_iff_exists', Option.ne_none_iff_exists'] at hboth
    obtain ⟨⟨v, hv⟩, ⟨w, hw⟩⟩ := hboth
    refine h _ (mem_samples_fieldGauge.mpr ⟨row, hrow, v, hv, rfl⟩)
      _ (mem_samples_fieldGauge.mpr ⟨row, hrow, w, hw, rfl⟩) ⟨hname, fun _ => Iff.rfl⟩
  · intro h a ha b hb hsame
    obtain ⟨row, hrow, v, hv, rfl⟩ := mem_samples_fieldGauge.mp ha
    obtain ⟨row', hrow', w, hw, rfl⟩ := mem_samples_fieldGauge.mp hb
    -- The identifier tells the row, so both values stand in one row.
    have huuid : uuidOf row = uuidOf row' := by
      simpa using (hsame.2 ("uuid", uuidOf row)).mp (by simp)
    obtain rfl : row = row' := List.inj_on_of_nodup_map huuids hrow hrow' huuid
    rcases h hsame.1 row hrow with hnone | hnone
    · rw [hnone] at hv
      cases hv
    · rw [hnone] at hw
      cases hw

/-! ## Samples of a scrape -/

/-- The samples of the exported fields are apart exactly if the fields are kept apart two by two. -/
theorem apart_fields_iff (hc : c.Resolved) {rows : List Row} (huuids : (rows.map uuidOf).Nodup) :
    Apart (c.exported.map (c.fieldGauge rows)) ↔
      ∀ f ∈ c.exported, ∀ g ∈ c.exported, f ≠ g → c.KeptApart rows f g := by
  rw [Apart, List.pairwise_flatMap, List.pairwise_map]
  simp only [keptApart_iff huuids]
  constructor
  · rintro ⟨-, hacross⟩ f hf g hg hne
    exact hacross.forall hf hg hne
  · intro h
    refine ⟨fun family hfamily => ?_, (nodup_exported hc).pairwise_of_forall_ne h⟩
    obtain ⟨field, -, rfl⟩ := List.mem_map.mp hfamily
    exact pairwise_fieldGauge huuids field

/-- The samples of a table with different devices are apart exactly if the exported fields are kept
apart two by two. -/
theorem apart_reference_iff (hc : c.Resolved) {t : Table} (huuids : (t.rows.map uuidOf).Nodup) :
    Apart (c.reference t) ↔
      ∀ f ∈ c.exported, ∀ g ∈ c.exported, f ≠ g → c.KeptApart t.rows f g := by
  -- The sample of the exit code has no labels, and every other sample has an identifier.
  have hexit : ∀ a ∈ (Metric.gaugeWith c.exitCodeName exitCodeDocumentation [([], 0)]).samples,
      ∀ g ∈ c.infoGauge t.rows :: c.exported.map (c.fieldGauge t.rows), ∀ b ∈ g.samples,
        ¬ a.SameSeries b := by
    intro a ha g hg b hb hsame
    have hnone : a.labels = [] := by
      rw [Metric.gaugeWith, List.map_singleton, List.mem_singleton] at ha
      rw [ha]
    have hlabel : ∃ uuid, ("uuid", uuid) ∈ b.labels := by
      rcases List.mem_cons.mp hg with rfl | hg
      · obtain ⟨row, -, rfl⟩ := mem_samples_infoGauge.mp hb
        exact ⟨uuidOf row, mem_deviceLabels_uuid.mpr rfl⟩
      · obtain ⟨field, -, rfl⟩ := List.mem_map.mp hg
        obtain ⟨row, -, v, -, rfl⟩ := mem_samples_fieldGauge.mp hb
        exact ⟨uuidOf row, List.mem_singleton_self _⟩
    obtain ⟨uuid, huuid⟩ := hlabel
    have hmem := (hsame.2 _).mpr huuid
    rw [hnone] at hmem
    cases hmem
  -- A device has other labels besides its identifier, and a field has not.
  have hinfo : ∀ a ∈ (c.infoGauge t.rows).samples,
      ∀ g ∈ c.exported.map (c.fieldGauge t.rows), ∀ b ∈ g.samples, ¬ a.SameSeries b := by
    intro a ha g hg b hb hsame
    obtain ⟨row, -, rfl⟩ := mem_samples_infoGauge.mp ha
    obtain ⟨field, -, rfl⟩ := List.mem_map.mp hg
    obtain ⟨row', -, v, -, rfl⟩ := mem_samples_fieldGauge.mp hb
    have hname : ("name", row.text "name") ∈ deviceLabels row := by simp [deviceLabels]
    have hmem := (hsame.2 _).mp hname
    simp at hmem
  rw [reference, Metric.apart_cons, Metric.apart_cons, apart_fields_iff hc huuids]
  constructor
  · rintro ⟨-, ⟨-, h, -⟩, -⟩
    exact h
  · intro h
    exact ⟨List.pairwise_singleton _ _, ⟨pairwise_infoGauge huuids, h, hinfo⟩, hexit⟩

variable {σ : Type}

/-- The samples of a scrape that finds a table with different devices are apart exactly if the
exported fields are kept apart two by two. -/
theorem scrape_apart_iff (hc : c.Resolved) {runner : Runner σ} {site : Site σ} {t : Table}
    (hfinding : c.finding (runner c.call site.surroundings).1.outcome = .table t)
    (huuids : (t.rows.map uuidOf).Nodup) :
    ((c.scrape runner).on site).1 = granting c.rule c.successNames ⟨c.tableReport t, false⟩ ∧
      (c.rule.Admits c.stem → ((c.scrape runner).on site).1 = .ok ⟨c.tableReport t, false⟩) ∧
      (Apart (c.tableReport t) ↔
        ∀ f ∈ c.exported, ∀ g ∈ c.exported, f ≠ g → c.KeptApart t.rows f g) := by
  have hscrape := congrArg (·.1) (scrape_of_table c runner site hfinding)
  refine ⟨hscrape, fun hadmits => hscrape.trans ?_, ?_⟩
  · exact granting_fixed hadmits (fun _ hn => List.mem_append_right _ hn) _
  · rw [tableReport_eq_reference hc hfinding]
    exact apart_reference_iff hc huuids

/-- The samples of a tool that shows two devices by their required fields are apart. -/
theorem scrape_apart_deviceTable :
    deviceCollector.Resolved ∧
      deviceCollector.finding (Runner.printing 0 deviceTable deviceCollector.call
        (Site.initial ()).surroundings).1.outcome = .table ⟨sixFields, sixFields, deviceRows⟩ ∧
      (deviceRows.map uuidOf).Nodup ∧
      ((deviceCollector.scrape (.printing 0 deviceTable)).on (Site.initial ())).1 =
        .ok ⟨deviceCollector.tableReport ⟨sixFields, sixFields, deviceRows⟩, false⟩ ∧
      Apart (deviceCollector.tableReport ⟨sixFields, sixFields, deviceRows⟩) := by
  have hfinding : deviceCollector.finding (Runner.printing 0 deviceTable deviceCollector.call
      (Site.initial ()).surroundings).1.outcome = .table ⟨sixFields, sixFields, deviceRows⟩ := by
    have hfields : deviceCollector.queryFields = sixFields := rfl
    rw [Runner.printing, finding, if_pos rfl, hfields, parse_deviceTable]
  have huuids : (deviceRows.map uuidOf).Nodup := by decide +kernel
  have hadmits : deviceCollector.rule.Admits deviceCollector.stem :=
    .inr (.inr (by decide))
  have hscrape := scrape_apart_iff resolved_deviceCollector hfinding huuids
  refine ⟨resolved_deviceCollector, hfinding, huuids, hscrape.2.1 hadmits,
    hscrape.2.2.mpr fun f hf g hg hne hname => ?_⟩
  -- No two of the six headers lead to one name.
  have hnames : (sixFields.map fun f => (deviceCollector.fieldInfo f).name).Nodup := by
    decide +kernel
  exact absurd (List.inj_on_of_nodup_map hnames (mem_exported.mp hf).1 (mem_exported.mp hg).1 hname)
    hne

/-! ## A field asked for under two names -/

/-- The fields that are asked for if the settings name the other name of the name of a device. -/
def aliasFields : List String := "gpu_name" :: sixFields

/-- The headers that the tool answers with. -/
def aliasHeaders : List String := "name" :: sixFields

/-- The output of a tool that shows one device. -/
def aliasOutput : String :=
  "name, uuid, name, driver_model.current, driver_model.pending, vbios_version, driver_version\n" ++
  "T4, GPU-1a, T4, N/A, N/A, 90.04, 535\n"

/-- The row of the device. -/
def aliasRow : Row :=
  Table.rowOf aliasFields aliasHeaders ["T4", "GPU-1a", "T4", "N/A", "N/A", "90.04", "535"]

set_option maxRecDepth 8000 in
/-- The output is a table with one row. -/
theorem parse_aliasOutput :
    Table.parse aliasOutput aliasFields = .ok ⟨aliasFields, aliasHeaders, [aliasRow]⟩ := by
  rfl

/-- The settings that ask for the field. -/
def aliasSettings : CollectorSettings := { queryFieldNames := "gpu_name" }

/-- The document with these settings. -/
def aliasDocument : Document :=
  .table [(.name "collector", .table [(.name "query_field_names", .text "gpu_name")])]

/-- The tool. -/
def aliasTool : Smi := ⟨["nvidia-smi"], some 10, "GPUCollector"⟩

/-- The collector of these settings and the mapping that the tool leads to. -/
def aliasCollector : Collector :=
  ofMapping aliasSettings .plainName none aliasTool (.ofLists aliasFields aliasHeaders)

/-- The request of the settings is resolved to this mapping. -/
theorem resolve_alias :
    Field.Request.parse aliasSettings.queryFieldNames.outline = .ok (.explicit ["gpu_name"]) ∧
      ((Field.resolve (.explicit ["gpu_name"]) aliasTool (.printing 0 aliasOutput)).on
        (Site.initial ())).1 = .ok (.ofLists aliasFields aliasHeaders) := by
  have hfields : Field.withRequired ["gpu_name"] = aliasFields := by decide
  have hshown : Field.shown? aliasFields (Runner.printing 0 aliasOutput
      (aliasTool.queryCall aliasFields) (Site.initial ()).surroundings).1.outcome =
        some ⟨aliasFields, aliasHeaders, [aliasRow]⟩ := by
    rw [Runner.printing, Field.shown?, if_pos rfl, parse_aliasOutput]
    rfl
  obtain ⟨s, -, hheaders⟩ := Field.headersOf_of_shown hshown
  refine ⟨by decide, ?_⟩
  rw [Field.resolve, hfields, Field.mappingOf, Session.on_bind_ok _ hheaders, Session.on_pure]

/-- The name of the device holds exactly one numeral, so it is read as a number. -/
theorem ofCell_alias (multiplier : Float) : ∃ x, Reading.ofCell "T4" multiplier = .ok x := by
  have hfour : Reading.numeral? ['4'] = some (⟨false, ['4'], []⟩, []) := by decide
  have hnumerals : Reading.numerals "t4".toList = [⟨false, ['4'], []⟩] := by
    rw [show "t4".toList = ['t', '4'] from rfl, Reading.numerals_of_other (by decide),
      Reading.numerals_of_numeral hfour, Reading.numerals_nil]
  have hstate : Reading.stateCode? "t4" = none := rfl
  have htrimmed : Text.trimmed "T4" = "T4" := by decide
  have hlowered : Text.lowered "T4" = "t4" := by decide
  have hmask : Text.startsWith "0x" "T4" = false := by decide
  rw [Reading.ofCell, htrimmed, hmask, hlowered]
  simp only [Bool.false_eq_true, if_false, hstate, Reading.onlyNumber, hnumerals]
  exact ⟨_, rfl⟩

/-- The settings ask for the name of the device under its other name, and so its name is exported
twice. The two samples belong to one time series. -/
theorem not_apart_alias :
    Settings.ofDocument aliasDocument = .ok { collector := aliasSettings } ∧
      Field.Request.parse aliasSettings.queryFieldNames.outline = .ok (.explicit ["gpu_name"]) ∧
      ((Field.resolve (.explicit ["gpu_name"]) aliasTool (.printing 0 aliasOutput)).on
        (Site.initial ())).1 = .ok aliasCollector.mapping ∧
      ([aliasRow].map uuidOf).Nodup ∧
      ((aliasCollector.scrape (.printing 0 aliasOutput)).on (Site.initial ())).1 =
        .ok ⟨aliasCollector.tableReport ⟨aliasFields, aliasHeaders, [aliasRow]⟩, false⟩ ∧
      ¬ Apart (aliasCollector.tableReport ⟨aliasFields, aliasHeaders, [aliasRow]⟩) := by
  have hresolve := resolve_alias.2
  have hresolved : aliasCollector.Resolved := .ofMapping hresolve aliasSettings .plainName none _
  have hfinding : aliasCollector.finding
      (Runner.printing 0 aliasOutput aliasCollector.call (Site.initial ()).surroundings).1.outcome =
        .table ⟨aliasFields, aliasHeaders, [aliasRow]⟩ := by
    have hfields : aliasCollector.queryFields = aliasFields := rfl
    rw [Runner.printing, finding, if_pos rfl, hfields, parse_aliasOutput]
  have huuids : ([aliasRow].map uuidOf).Nodup := List.nodup_singleton _
  refine ⟨rfl, resolve_alias.1, hresolve, huuids, ?_, ?_⟩
  · have hadmits : aliasCollector.rule.Admits aliasCollector.stem := .inr (.inr (by decide))
    rw [scrape_of_table _ _ _ hfinding]
    exact granting_fixed hadmits (fun _ hn => List.mem_append_right _ hn) _
  · rw [tableReport_eq_reference hresolved hfinding, apart_reference_iff hresolved huuids]
    intro h
    -- Both fields have the header of the name, and the cell of each holds it.
    have hkept := h "gpu_name" (by decide) "name" (by decide) (by decide) rfl aliasRow (by simp)
    have hvalue (field : String) (htext : aliasRow.text field = "T4") :
        aliasCollector.value? field aliasRow ≠ none := by
      obtain ⟨x, hx⟩ := ofCell_alias (aliasCollector.fieldInfo field).multiplier
      rw [value?, reading, htext, hx]
      simp
    exact hkept.elim (hvalue "gpu_name" rfl) (hvalue "name" rfl)

end Collector

end GpuMetrics
