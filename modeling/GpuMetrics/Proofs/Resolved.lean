import GpuMetrics.Collector.Basic
import GpuMetrics.Proofs.Resolution

/-!
# Collectors that are built

What a collector knows is settled when it is built: the tool comes from the settings, the mapping
from the resolution of their request or from outside, and the metric of each field from its header
(`build_eq_ok`). A collector whose mapping was resolved has a header, and so a metric, for each of
its query fields (`Resolved.infos_eq_map`).
-/

namespace GpuMetrics.Collector

variable {σ : Type}

/-- A collector whose mapping comes from the resolution of a request. -/
inductive Resolved : Collector → Prop
  | /-- The mapping was resolved, and the collector was made of it. -/
    ofMapping {σ : Type} {request : Field.Request} {asked : Smi} {runner : Runner σ} {site : Site σ}
      {mapping : Field.Mapping}
      (hresolve : ((Field.resolve request asked runner).on site).1 = .ok mapping)
      (settings : CollectorSettings) (rule : Metric.NameRule) (listener : Option Listener)
      (smi : Smi) : Resolved (Collector.ofMapping settings rule listener smi mapping)

/-! ## Building -/

/-- A collector that was built is made of the settings, of the tool that they name, and of a mapping
that was known or resolved. -/
theorem build_eq_ok {settings : CollectorSettings} {rule : Metric.NameRule}
    {listener : Option Listener} {channel : String} {known : Option Field.Mapping}
    {runner : Runner σ} {site : Site σ} {c : Collector}
    (h : ((build settings rule listener channel known runner).on site).1 = .ok c) :
    ∃ smi mapping, smiOf settings channel = .ok smi ∧
      c = ofMapping settings rule listener smi mapping ∧
      (known = some mapping ∨ known = none ∧
        ∃ request, ((Field.resolve request smi runner).on site).1 = .ok mapping) := by
  obtain ⟨smi, hsmi, h⟩ := (Session.on_bind_eq_ok_iff _).mp h
  rw [Session.on_ofExcept] at hsmi
  -- Either way the collector is made after the mapping, and made of it.
  cases known with
  | some m =>
    obtain ⟨mapping, hmapping, h⟩ := (Session.on_bind_eq_ok_iff _).mp h
    obtain ⟨-, -, h⟩ := (Session.on_bind_eq_ok_iff _).mp h
    cases hmapping
    cases h
    exact ⟨smi, m, hsmi, rfl, .inl rfl⟩
  | none =>
    obtain ⟨mapping, hmapping, h⟩ := (Session.on_bind_eq_ok_iff _).mp h
    obtain ⟨-, -, h⟩ := (Session.on_bind_eq_ok_iff _).mp h
    cases h
    refine ⟨smi, mapping, hsmi, rfl, .inr ⟨rfl, ?_⟩⟩
    dsimp only [mappingOf] at hmapping
    cases hparse : Field.Request.parse settings.queryFieldNames.outline with
    | error e => simp [hparse] at hmapping
    | ok request =>
      simp only [hparse, Session.on_ofExcept] at hmapping
      exact ⟨request, hmapping⟩

/-- A collector that was built without a known mapping has a resolved one. -/
theorem resolved_of_build {settings : CollectorSettings} {rule : Metric.NameRule}
    {listener : Option Listener} {channel : String} {runner : Runner σ} {site : Site σ}
    {c : Collector}
    (h : ((build settings rule listener channel none runner).on site).1 = .ok c) : c.Resolved := by
  obtain ⟨smi, mapping, -, rfl, hknown | ⟨-, request, hresolve⟩⟩ := build_eq_ok h
  · cases hknown
  · exact .ofMapping hresolve settings rule listener smi

/-- A collector is built without a change to what scrapes have left behind. -/
theorem keeps_results_build (settings : CollectorSettings) (rule : Metric.NameRule)
    (listener : Option Listener) (channel : String) (known : Option Field.Mapping)
    (runner : Runner σ) :
    (build settings rule listener channel known runner).Keeps Site.results := by
  have hrest (smi : Smi) (mapping : Field.Mapping) :
      (do
        let c := ofMapping settings rule listener smi mapping
        Session.logAll c.openingRecords
        return c : Session σ Collector).Keeps Site.results :=
    Session.keeps_bind (Session.keeps_change fun _ => rfl) fun _ => Session.keeps_pure _
  refine Session.keeps_bind (Session.keeps_ofExcept _) fun smi => ?_
  cases known with
  | some mapping => exact Session.keeps_bind (Session.keeps_pure _) fun _ => hrest smi _
  | none =>
    refine Session.keeps_bind ?_ fun _ => hrest smi _
    rw [mappingOf]
    split
    · exact Field.keeps_resolve _ smi runner
    · exact Session.keeps_throw _

/-- A collector is built without a change to the health. -/
theorem keeps_build (settings : CollectorSettings) (rule : Metric.NameRule)
    (listener : Option Listener) (channel : String) (known : Option Field.Mapping)
    (runner : Runner σ) :
    (build settings rule listener channel known runner).Keeps Site.health := fun site =>
  congrArg Prod.fst (keeps_results_build settings rule listener channel known runner site)

/-- A mapping that is known is taken without a question to the tool. -/
theorem build_of_known {settings : CollectorSettings} {channel : String} {smi : Smi}
    (h : smiOf settings channel = .ok smi) (rule : Metric.NameRule) (listener : Option Listener)
    (mapping : Field.Mapping) (runner : Runner σ) (site : Site σ) :
    (build settings rule listener channel (some mapping) runner).on site =
      (.ok (ofMapping settings rule listener smi mapping),
        { site with records := site.records ++
          (ofMapping settings rule listener smi mapping).openingRecords }) := by
  have hsmi : (Session.ofExcept (smiOf settings channel)).on site = (.ok smi, site) := by
    rw [Session.on_ofExcept, h]
  rw [build, Session.on_bind_ok _ hsmi, Session.on_bind_ok _ (Session.on_pure _ _),
    Session.on_bind_ok _ (Session.on_logAll _ _), Session.on_pure]

/-- A run of the tool that the settings name may take as long as they say. -/
theorem timeout_of_smiOf {settings : CollectorSettings} {channel : String} {smi : Smi}
    (h : smiOf settings channel = .ok smi) : smi.timeout = some settings.commandTimeout := by
  rw [smiOf, Smi.ofCommand] at h
  split at h <;> cases h
  rfl

/-! ## Headers and metrics -/

variable {c : Collector}

/-- The mapping of a collector whose mapping was resolved is sound. -/
theorem Resolved.sound (hc : c.Resolved) : c.mapping.Sound := by
  obtain ⟨hresolve, settings, rule, listener, smi⟩ := hc
  exact Field.resolve_sound hresolve

/-- The metrics of a collector whose mapping was resolved are those of its headers. -/
theorem Resolved.infos_eq (hc : c.Resolved) :
    c.infos = Metric.infos c.stem c.mapping.returnedFields := by
  obtain ⟨hresolve, settings, rule, listener, smi⟩ := hc
  rfl

variable (c)

/-- The header of a field. -/
def header (field : String) : String := (Keyed.get? c.mapping.returnedFields field).getD ""

/-- The metric of a field, by its header. -/
def fieldInfo (field : String) : Metric.Info := .ofHeader c.stem (c.header field)

variable {c}

/-- The metrics are those of the query fields, in their order. -/
theorem Resolved.infos_eq_map (hc : c.Resolved) :
    c.infos = c.queryFields.map fun field => (field, c.fieldInfo field) := by
  have hkeys : c.mapping.returnedFields.map (·.1) = c.queryFields := hc.sound.keys
  have hnodup : (Keyed.keys c.mapping.returnedFields).Nodup := by
    rw [hc.sound.keys]
    exact hc.sound.nodup
  rw [hc.infos_eq, Metric.infos, ← hkeys, List.map_map]
  refine List.map_congr_left fun e he => ?_
  have hheader : c.header e.1 = e.2 := by
    rw [header, Keyed.get?_of_mem hnodup he]
    rfl
  simp [fieldInfo, hheader]

end GpuMetrics.Collector
