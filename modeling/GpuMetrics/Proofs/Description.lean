import GpuMetrics.Proofs.Harvest

/-!
# Descriptions and scrapes

A description goes through the metrics and a scrape through the query fields, and both leave out the
fields whose metrics may not have their names. Here a family is looked at without its samples
(`Metric.Family.profile`), and both are written down in these terms: `profiles_description` for the
description, and `profiles_reference` and `profiles_failureReport` for the two kinds of scrapes.
`agrees` compares them for every collector whose mapping was resolved.

Whether there is a description depends on the stem alone, and so does every scrape that gives
families (`describe_of_admits`, `admits_of_scrape`). So nothing can be scraped that cannot be
described.
-/

namespace GpuMetrics

/-- What a family is without its samples: its name, its kind and its description. -/
def Metric.Family.profile (f : Metric.Family) : String × Metric.Kind × String :=
  (f.name, f.kind, f.documentation)

namespace Collector

variable (c : Collector)

/-! ## The described families -/

/-- The counter of failed scrapes without its sample. -/
def emptyCounter : Metric.Family :=
  ⟨c.failureName, .counter, "Number of failed scrapes", []⟩

/-- The gauge of the exit code without its sample. -/
def emptyExit : Metric.Family := Metric.gaugeWith c.exitCodeName exitCodeDocumentation []

/-- The described families: one for each field that is exported, in the order of the query, and the
three fixed ones. -/
def description : List Metric.Family :=
  c.exported.map (c.fieldGauge []) ++ [c.emptyCounter, c.emptyExit, c.emptyInfo]

/-- The names of the fixed families that are described. -/
def describedNames : List String := [c.failureName, c.exitCodeName, c.gpuInfoName]

variable {σ : Type} {c}

/-- The families are described if the names of the three fixed ones are granted. -/
theorem describe_on (hc : c.Resolved) (site : Site σ) :
    (c.describe).on site = (granting c.rule c.describedNames c.description,
      { site with records := site.records ++ c.fieldRecords }) := by
  have hfields : c.fieldFamilies.map (·.2) = c.exported.map (c.fieldGauge []) := by
    rw [fieldFamilies_eq hc, List.map_map]
    rfl
  rw [describe, Session.on_bind_ok _ (Session.on_logAll _ _), Session.on_bind,
    Session.on_ofExcept, failedScrapesFamily_eq, exitCodeFamily, named_gauge, gpuInfoFamily,
    named_gauge, hfields]
  simp only [describedNames, granting]
  -- The first name that is refused is the fault, in the order in which the families are made.
  cases c.rule.check c.failureName with
  | error e => rfl
  | ok _ =>
    simp only
    rw [Session.on_bind, Session.on_ofExcept]
    cases c.rule.check c.exitCodeName with
    | error e => rfl
    | ok _ =>
      simp only
      rw [Session.on_bind, Session.on_ofExcept]
      cases c.rule.check c.gpuInfoName <;> rfl

/-- Under an admitted stem the families are described. -/
theorem describe_of_admits (hc : c.Resolved) (h : c.rule.Admits c.stem) (site : Site σ) :
    ((c.describe).on site).1 = .ok c.description := by
  have hfixed : ∀ n ∈ c.describedNames, n ∈ c.failureNames ++ c.successNames := by
    simp [describedNames, failureNames, successNames]
  rw [describe_on hc, granting_fixed h hfixed]

/-- A scrape that gives families does so under an admitted stem. -/
theorem admits_of_scrape {runner : Runner σ} {site : Site σ} {y : Yield}
    (h : ((c.scrape runner).on site).1 = .ok y) : c.rule.Admits c.stem := by
  -- Either way the gauge of the exit code is among the families.
  have hexit : c.rule.check c.exitCodeName = .ok () := by
    rcases scrape_eq_ok h with ⟨t, -, -, hnames⟩ | ⟨f, -, -, hnames⟩
    · exact hnames _ (by simp [successNames])
    · exact hnames _ (by simp [failureNames])
  exact Metric.NameRule.admits_of_check (by decide) hexit

/-- A described family has no samples. -/
theorem samples_description {f : Metric.Family} (h : f ∈ c.description) : f.samples = [] := by
  rw [description, List.mem_append, List.mem_map] at h
  rcases h with ⟨field, -, rfl⟩ | hfixed
  · rfl
  · simp only [List.mem_cons, List.not_mem_nil, or_false] at hfixed
    rcases hfixed with rfl | rfl | rfl <;> rfl

/-! ## Families without their samples -/

variable (c)

/-- The gauge of a field without its samples. -/
def fieldProfile (field : String) : String × Metric.Kind × String :=
  ((c.fieldInfo field).name, .gauge, (c.fieldInfo field).documentation)

/-- A described family for each field that is exported, and the three fixed ones. -/
theorem profiles_description :
    c.description.map Metric.Family.profile = c.exported.map c.fieldProfile ++
      [c.emptyCounter.profile, c.emptyExit.profile, c.emptyInfo.profile] := by
  rw [description, List.map_append, List.map_map]
  rfl

/-- A successful scrape gives the two fixed families and one for each field that is exported. -/
theorem profiles_reference (t : Table) :
    (c.reference t).map Metric.Family.profile =
      c.emptyExit.profile :: c.emptyInfo.profile :: c.exported.map c.fieldProfile := by
  rw [reference, List.map_cons, List.map_cons, List.map_map]
  rfl

/-- A failed scrape gives the gauge of the exit code and the counter. -/
theorem profiles_failureReport (health : Health) :
    (c.failureReport health).map Metric.Family.profile =
      [c.emptyExit.profile, c.emptyCounter.profile] := rfl

/-! ## Agreement -/

/-- The families that are described are those that scrapes give. -/
structure Agrees : Prop where
  /-- Under an admitted stem the families are described, whatever happened before. -/
  described : c.rule.Admits c.stem → ∀ {σ : Type} (site : Site σ),
    ((c.describe).on site).1 = .ok c.description
  /-- Nothing is scraped that is not described. -/
  scraped : ∀ {σ : Type} (runner : Runner σ) (site site' : Site σ) (y : Yield),
    ((c.scrape runner).on site).1 = .ok y → ((c.describe).on site').1 = .ok c.description
  /-- Under an admitted stem, a scrape that finds a table gives families, and so does one that fails
  unless the listener ends in a fault. -/
  given : c.rule.Admits c.stem → ∀ {σ : Type} (runner : Runner σ) (site : Site σ),
    (∀ t, c.finding (runner c.call site.surroundings).1.outcome = .table t →
        ∃ families, ((c.scrape runner).on site).1 = .ok ⟨families, false⟩) ∧
      ∀ f, c.finding (runner c.call site.surroundings).1.outcome = .failure f →
        (c.reaction? f).bind (·.fault) = none →
          ∃ families, ((c.scrape runner).on site).1 = .ok ⟨families, true⟩
  /-- The described families have no samples. -/
  empty : ∀ f ∈ c.description, f.samples = []
  /-- Up to their order and without the samples, the described families are those of each successful
  scrape and the counter. -/
  success : ∀ {σ : Type} (runner : Runner σ) (site : Site σ) (families : List Metric.Family),
    ((c.scrape runner).on site).1 = .ok ⟨families, false⟩ →
      (c.description.map Metric.Family.profile).Perm
        (families.map Metric.Family.profile ++ [c.emptyCounter.profile])
  /-- Without the samples, the families of each failed scrape are the described gauge of the exit
  code and the described counter. -/
  failure : ∀ {σ : Type} (runner : Runner σ) (site : Site σ) (families : List Metric.Family),
    ((c.scrape runner).on site).1 = .ok ⟨families, true⟩ →
      families.map Metric.Family.profile = [c.emptyExit.profile, c.emptyCounter.profile] ∧
        c.emptyExit ∈ c.description ∧ c.emptyCounter ∈ c.description
  /-- The fields that are exported stand in the order of the query. -/
  inOrder : c.exported.Sublist c.queryFields
  /-- In the description, their families come first and in this order. -/
  describedOrder : (c.description.take c.exported.length).map Metric.Family.profile =
    c.exported.map c.fieldProfile
  /-- In each successful scrape, their families come behind the two fixed ones and in this order. -/
  scrapedOrder : ∀ {σ : Type} (runner : Runner σ) (site : Site σ) (families : List Metric.Family),
    ((c.scrape runner).on site).1 = .ok ⟨families, false⟩ →
      (families.drop 2).map Metric.Family.profile = c.exported.map c.fieldProfile

variable {c}

/-- The families of a successful scrape, without their samples. -/
theorem profiles_of_success (hc : c.Resolved) {runner : Runner σ} {site : Site σ}
    {families : List Metric.Family}
    (h : ((c.scrape runner).on site).1 = .ok ⟨families, false⟩) :
    families.map Metric.Family.profile =
      c.emptyExit.profile :: c.emptyInfo.profile :: c.exported.map c.fieldProfile := by
  rcases scrape_eq_ok h with ⟨t, hfinding, hyield, -⟩ | ⟨f, -, hyield, -⟩
  · cases hyield
    rw [tableReport_eq_reference hc hfinding, profiles_reference]
  · cases hyield

/-- The families of a failed scrape, without their samples. -/
theorem profiles_of_failure {runner : Runner σ} {site : Site σ} {families : List Metric.Family}
    (h : ((c.scrape runner).on site).1 = .ok ⟨families, true⟩) :
    families.map Metric.Family.profile = [c.emptyExit.profile, c.emptyCounter.profile] := by
  rcases scrape_eq_ok h with ⟨t, -, hyield, -⟩ | ⟨f, -, hyield, -⟩
  · cases hyield
  · cases hyield
    exact profiles_failureReport c _

open List in
/-- A collector whose mapping was resolved describes what its scrapes give. -/
theorem agrees (hc : c.Resolved) : c.Agrees where
  described := fun hadmits _ => describe_of_admits hc hadmits
  scraped := fun _ _ site' _ h => describe_of_admits hc (admits_of_scrape h) site'
  given := fun hadmits _ runner site => by
    constructor
    · intro t hfinding
      rw [scrape_of_table c runner site hfinding]
      exact ⟨_, granting_fixed hadmits (fun _ hn => List.mem_append_right _ hn) _⟩
    · intro f hfinding hreaction
      rw [scrape_of_failure c runner site hfinding, hreaction]
      exact ⟨_, granting_fixed hadmits (fun _ hn => List.mem_append_left _ hn) _⟩
  empty := fun _ => samples_description
  success := fun _ _ families h => by
    rw [profiles_of_success hc h, profiles_description]
    generalize c.exported.map c.fieldProfile = fields
    let two := [c.emptyExit.profile, c.emptyInfo.profile]
    -- The counter goes to the end, and then the two other fixed families to the front.
    calc fields ++ (c.emptyCounter.profile :: two)
      _ ~ fields ++ (two ++ [c.emptyCounter.profile]) :=
        (List.perm_append_singleton _ two).symm.append_left fields
      _ = fields ++ two ++ [c.emptyCounter.profile] := (List.append_assoc _ _ _).symm
      _ ~ two ++ fields ++ [c.emptyCounter.profile] := List.perm_append_comm.append_right _
  failure := fun _ _ families h => by
    refine ⟨profiles_of_failure h, ?_, ?_⟩ <;> simp [description]
  inOrder := List.filter_sublist
  describedOrder := by
    have hlength : (c.exported.map (c.fieldGauge [])).length = c.exported.length :=
      List.length_map _
    rw [description, ← hlength, List.take_left, List.map_map]
    rfl
  scrapedOrder := fun _ _ families h => by
    rw [List.map_drop, profiles_of_success hc h]
    rfl

/-- The collector of a tool with two devices describes what it gives. -/
theorem agrees_deviceCollector :
    deviceCollector.Resolved ∧ deviceCollector.Agrees ∧
      ((deviceCollector.describe).on (Site.initial ())).1 =
        .ok deviceCollector.description := by
  have hagrees := agrees resolved_deviceCollector
  exact ⟨resolved_deviceCollector, hagrees,
    hagrees.described (.inr (.inr (by decide))) (Site.initial ())⟩

end Collector

end GpuMetrics
