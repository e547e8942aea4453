import GpuMetrics.Field.Resolution
import GpuMetrics.Proofs.Catalog
import GpuMetrics.Proofs.Session
import GpuMetrics.Proofs.Table

/-!
# The decision table of the resolution of fields

Which mapping a request leads to, and how often the tool is asked for it, depends on two replies:
the one to the question for help and the one to the trial query. `Decision` has one rule for each
way that these can lead, and `resolve_decision` shows that the resolution follows it. The rules
speak of the list of query fields as a whole; that the headers go with the fields at the same places
rests on the fields being distinct (`withRequired_nodup`), since a mapping keeps one header for each
field.

The parts are bottom up: the list of fields, the catalog, the two questions, and the table.
-/

namespace GpuMetrics.Field

/-! ## The list of query fields -/

/-- Names that were not seen, each at its first place, are what is left of the names that were not
seen when their repeats are dropped. -/
theorem distinctFrom_eq (seen names : List String) :
    distinctFrom seen names = (names.filter fun q => q ∉ seen).eraseDups := by
  induction names generalizing seen with
  | nil => rfl
  | cons q r ih =>
    by_cases hq : q ∈ seen
    · simp [distinctFrom, hq, ih]
    -- A name that is kept counts as seen from here on, which drops its repeats from the rest.
    · rw [distinctFrom, if_neg hq, ih, List.filter_cons_of_pos (by simpa using hq),
        List.eraseDups_cons, List.filter_filter]
      congr 3
      funext p
      by_cases hp : p = q <;> simp [hp]

/-- The fields that are asked for are the given and the required ones without repeats, each at its
first place. -/
theorem withRequired_eq (fields : List String) :
    withRequired fields = (fields ++ required.map (·.queryField)).eraseDups := by
  rw [withRequired, distinct, distinctFrom_eq, List.filter_eq_self.mpr (by simp)]

/-- A list without repeats has none. -/
theorem nodup_eraseDups (names : List String) : names.eraseDups.Nodup := by
  -- The repeats that are dropped may stand anywhere, so the induction is on the length.
  generalize hn : names.length = n
  induction n using Nat.strongRecOn generalizing names with
  | ind n ih =>
    cases names with
    | nil => simp
    | cons q r =>
      rw [List.eraseDups_cons, List.nodup_cons]
      have hle := List.length_filter_le (fun p => !p == q) r
      rw [List.length_cons] at hn
      exact ⟨by simp [List.mem_eraseDups], ih _ (by omega) _ rfl⟩

/-- No field is asked for twice. -/
theorem withRequired_nodup (fields : List String) : (withRequired fields).Nodup := by
  rw [withRequired_eq]
  exact nodup_eraseDups _

/-- The required fields are always asked for. -/
theorem mem_withRequired {fields : List String} {f : Identity} (h : f ∈ required) :
    f.queryField ∈ withRequired fields := by
  rw [withRequired_eq, List.mem_eraseDups, List.mem_append]
  exact .inr (List.mem_map_of_mem h)

/-! ## Mappings -/

/-- A mapping that can be relied on: no field stands twice, the required ones are there, and the
headers are kept under the fields in the order of the query. -/
structure Mapping.Sound (m : Mapping) : Prop where
  /-- No field stands twice. -/
  nodup : m.queryFields.Nodup
  /-- The required fields are there. -/
  required : ∀ f ∈ Field.required, f.queryField ∈ m.queryFields
  /-- The fields that have a header are the query fields, in their order. -/
  keys : Keyed.keys m.returnedFields = m.queryFields

/-- Distinct fields and as many headers are mapped side by side. -/
theorem Mapping.ofLists_eq {fields headers : List String} (hfields : fields.Nodup)
    (hlength : headers.length = fields.length) :
    Mapping.ofLists fields headers = ⟨fields, fields.zip headers⟩ := by
  have hkeys : (fields.zip headers).map (·.1) = fields := Keyed.keys_zip (by omega)
  rw [Mapping.ofLists, Keyed.ofList_of_nodup (by rwa [hkeys])]

/-- The fields of a request and as many headers side by side are a sound mapping. -/
theorem Mapping.sound_zip {fields headers : List String}
    (hlength : headers.length = (withRequired fields).length) :
    Mapping.Sound ⟨withRequired fields, (withRequired fields).zip headers⟩ where
  nodup := withRequired_nodup fields
  required _ := mem_withRequired
  keys := Keyed.keys_zip (by omega)

/-- The mapping of the whole catalog has the fields and the headers of the catalog, in its order. -/
theorem catalogMapping_eq : catalogMapping = ⟨Keyed.keys catalog, catalog⟩ := by
  have hzip : (Keyed.keys catalog).zip (catalog.map (·.2)) = catalog := by
    rw [Keyed.keys, List.zip_map', List.map_id']
  rw [← hzip]
  exact Mapping.ofLists_eq nodup_keys_catalog (by simp)

/-- The mapping of the whole catalog is sound. -/
theorem catalogMapping_sound : catalogMapping.Sound := by
  rw [catalogMapping_eq]
  exact ⟨nodup_keys_catalog, required_mem_catalog, rfl⟩

/-! ## The two questions -/

/-- The fields that a reply to the question for help lists. A failed run lists none. -/
def listed : Except Fault RunResult → List String
  | .ok result => if result.exitCode = 0 then listedFields result.stdout else []
  | .error _ => []

/-- The table that a reply to a query for some fields shows. There is none unless the exit code is
zero and the whole output is a table. -/
def shown? (fields : List String) : Except Fault RunResult → Option Table
  | .ok result =>
    if result.exitCode = 0 then (Table.parse result.stdout fields).toOption else none
  | .error _ => none

/-- A table is shown exactly by a result with the exit code zero whose output is the table. -/
theorem shown?_eq_some_iff {fields : List String} {reply : Except Fault RunResult} {t : Table} :
    shown? fields reply = some t ↔
      ∃ result, reply = .ok result ∧ result.exitCode = 0 ∧
        Table.parse result.stdout fields = .ok t := by
  cases reply with
  | error e => simp [shown?]
  | ok result =>
    by_cases hcode : result.exitCode = 0
    · cases hparse : Table.parse result.stdout fields <;>
        simp [shown?, hcode, hparse, Except.toOption]
    · simp [shown?, hcode]

variable {σ : Type} {smi : Smi} {runner : Runner σ} {site : Site σ}

/-- If the reply to the question for help lists fields, they are its answer. -/
theorem detect_of_listed (site : Site σ)
    (h : listed (runner smi.helpCall site.surroundings).1.outcome ≠ []) :
    ∃ s : Site σ, s.unlogged = (site.called runner smi.helpCall).unlogged ∧
      (detect smi runner).on site =
        (.ok (listed (runner smi.helpCall site.surroundings).1.outcome), s) := by
  cases hreply : (runner smi.helpCall site.surroundings).1.outcome with
  | error e => simp [hreply, listed] at h
  | ok result =>
    rw [hreply] at h
    by_cases hcode : result.exitCode = 0
    -- The list is not empty, so the question does not end in the fault of an empty one.
    · obtain ⟨s, hs, hrun⟩ := Smi.run_unlogged (Smi.accepted_eq_ok_iff.mpr ⟨hreply, hcode⟩)
      simp only [listed, hcode, if_true] at h ⊢
      refine ⟨s, hs, ?_⟩
      rw [detect, Smi.help, Session.on_bind_ok _ hrun]
      simp [h]
    · simp [listed, hcode] at h

/-- If it lists none, the question has no answer, and the catalog makes up for that. -/
theorem detect_of_nothing (hrunner : runner.Reports) (site : Site σ)
    (h : listed (runner smi.helpCall site.surroundings).1.outcome = []) :
    ∃ (s : Site σ) (e : Fault), s.unlogged = (site.called runner smi.helpCall).unlogged ∧
      isDetectionFault e = true ∧ (detect smi runner).on site = (.error e, s) := by
  cases hout : Smi.accepted smi.helpCommand
      (runner smi.helpCall site.surroundings).1.outcome with
  | error e =>
    obtain ⟨s, hs, hrun⟩ := Smi.run_unlogged hout
    obtain ⟨f, rfl⟩ := Smi.accepted_error hrunner hout
    exact ⟨s, _, hs, rfl, by rw [detect, Smi.help, Session.on_bind_error _ hrun]⟩
  | ok result =>
    obtain ⟨s, hs, hrun⟩ := Smi.run_unlogged hout
    obtain ⟨hreply, hcode⟩ := Smi.accepted_eq_ok_iff.mp hout
    have hnone : listedFields result.stdout = [] := by simpa [hreply, listed, hcode] using h
    refine ⟨s, .noFields ⟨result.command, result.stdout, result.stderr⟩, hs, rfl, ?_⟩
    rw [detect, Smi.help, Session.on_bind_ok _ hrun]
    simp only [hnone, List.isEmpty_nil, if_true]
    rw [Session.on_bind_error _ (Session.on_throw _ _)]

/-- If the reply to the trial query shows a table, its headers are the answer. -/
theorem trialHeaders_of_shown {fields : List String} {t : Table}
    (h : shown? fields (runner (smi.queryCall fields) site.surroundings).1.outcome = some t) :
    ∃ s : Site σ, s.unlogged = (site.called runner (smi.queryCall fields)).unlogged ∧
      (trialHeaders smi runner fields).on site = (.ok t.returnedFields, s) := by
  obtain ⟨result, hreply, hcode, hparse⟩ := shown?_eq_some_iff.mp h
  obtain ⟨s, hs, hrun⟩ := Smi.run_unlogged (Smi.accepted_eq_ok_iff.mpr ⟨hreply, hcode⟩)
  refine ⟨s, hs, ?_⟩
  rw [trialHeaders, Smi.query, Session.on_bind_ok _ hrun, hparse, Session.on_pure]

/-- If it shows none, the trial has no answer, and the catalog is asked instead. -/
theorem trialHeaders_of_nothing (hrunner : runner.Reports) {fields : List String}
    (h : shown? fields (runner (smi.queryCall fields) site.surroundings).1.outcome = none) :
    ∃ (s : Site σ) (e : Fault),
      s.unlogged = (site.called runner (smi.queryCall fields)).unlogged ∧
        isTrialFault e = true ∧ (trialHeaders smi runner fields).on site = (.error e, s) := by
  cases hout : Smi.accepted (smi.queryCommand fields)
      (runner (smi.queryCall fields) site.surroundings).1.outcome with
  | error e =>
    obtain ⟨s, hs, hrun⟩ := Smi.run_unlogged hout
    obtain ⟨f, rfl⟩ := Smi.accepted_error hrunner hout
    exact ⟨s, _, hs, rfl, by rw [trialHeaders, Smi.query, Session.on_bind_error _ hrun]⟩
  | ok result =>
    obtain ⟨s, hs, hrun⟩ := Smi.run_unlogged hout
    obtain ⟨hreply, hcode⟩ := Smi.accepted_eq_ok_iff.mp hout
    cases hparse : Table.parse result.stdout fields with
    | ok t =>
      rw [shown?_eq_some_iff.mpr ⟨result, hreply, hcode, hparse⟩] at h
      cases h
    | error m =>
      refine ⟨s, .mismatch m, hs, rfl, ?_⟩
      rw [trialHeaders, Smi.query, Session.on_bind_ok _ hrun, hparse, Session.on_throw]

/-! ## Headers -/

/-- A trial query that has an answer has as many headers as fields. -/
theorem length_of_trialHeaders {fields headers : List String}
    (h : ((trialHeaders smi runner fields).on site).1 = .ok headers) :
    headers.length = fields.length := by
  obtain ⟨result, -, h⟩ := (Session.on_bind_eq_ok_iff _).mp h
  cases hparse : Table.parse result.stdout fields with
  | error m => simp [hparse] at h
  | ok t =>
    have ht : t.returnedFields = headers := by simpa [hparse] using h
    exact ht ▸ Table.length_returnedFields_of_parse hparse

/-- Whatever the runner does, there are as many headers as fields. -/
theorem length_of_headersOf {fields headers : List String}
    (h : ((headersOf smi runner fields).on site).1 = .ok headers) :
    headers.length = fields.length := by
  obtain ⟨outcome, htrial, h⟩ := (Session.on_bind_eq_ok_iff _).mp h
  cases outcome with
  | ok shown =>
    cases h
    exact length_of_trialHeaders (Except.ok.inj htrial)
  | error e =>
    -- The headers are those of the catalog, if it makes up for the fault at all.
    dsimp only at h
    split at h
    · obtain ⟨-, -, h⟩ := (Session.on_bind_eq_ok_iff _).mp h
      cases hfound : catalogHeaders fields with
      | error u => simp [hfound] at h
      | ok found =>
        have heq : found = headers := by simpa [hfound] using h
        exact heq ▸ length_of_catalogHeaders hfound
    · simp at h

/-- A table that is shown gives the headers. -/
theorem headersOf_of_shown {fields : List String} {t : Table}
    (h : shown? fields (runner (smi.queryCall fields) site.surroundings).1.outcome = some t) :
    ∃ s : Site σ, s.unlogged = (site.called runner (smi.queryCall fields)).unlogged ∧
      (headersOf smi runner fields).on site = (.ok t.returnedFields, s) := by
  obtain ⟨s, hs, htrial⟩ := trialHeaders_of_shown h
  refine ⟨s, hs, ?_⟩
  rw [headersOf, Session.on_bind, Session.on_attempt, htrial]
  rfl

/-- Without a table the catalog gives them, or lacks one of the fields. -/
theorem headersOf_of_nothing (hrunner : runner.Reports) {fields : List String}
    (h : shown? fields (runner (smi.queryCall fields) site.surroundings).1.outcome = none) :
    ∃ s : Site σ, s.unlogged = (site.called runner (smi.queryCall fields)).unlogged ∧
      (headersOf smi runner fields).on site =
        ((catalogHeaders fields).mapError Fault.unexpected, s) := by
  obtain ⟨s, e, hs, he, htrial⟩ := trialHeaders_of_nothing hrunner h
  refine ⟨{ s with records := s.records ++ [.plain smi.channel .warning
    ("Failed to run the initial scrape, using the built-in list for field mapping: "
      ++ e.message)] }, hs, ?_⟩
  rw [headersOf, Session.on_bind, Session.on_attempt, htrial]
  simp only [he, if_true]
  rw [Session.on_bind_ok _ (Session.on_note _ _ _ _)]
  cases catalogHeaders fields <;> rfl

/-! ## What is kept -/

/-- The headers of some fields are learned without a change to what scrapes have left behind. -/
theorem keeps_headersOf (smi : Smi) (runner : Runner σ) (fields : List String) :
    (headersOf smi runner fields).Keeps Site.results := by
  have htrial : (trialHeaders smi runner fields).Keeps Site.results := by
    refine Session.keeps_bind (smi.keeps_run runner _) fun result => ?_
    cases Table.parse result.stdout fields with
    | ok t => exact Session.keeps_pure _
    | error m => exact Session.keeps_throw _
  refine Session.keeps_bind (Session.keeps_attempt htrial) fun outcome => ?_
  cases outcome with
  | ok headers => exact Session.keeps_pure _
  | error e =>
    refine Session.keeps_ite (Session.keeps_bind (Session.keeps_change fun _ => rfl) fun _ => ?_)
      (Session.keeps_throw _)
    cases catalogHeaders fields with
    | ok headers => exact Session.keeps_pure _
    | error u => exact Session.keeps_throw _

/-- A request is resolved without a change to what scrapes have left behind. -/
theorem keeps_resolve (request : Request) (smi : Smi) (runner : Runner σ) :
    (resolve request smi runner).Keeps Site.results := by
  have hmapping (fields : List String) : (mappingOf smi runner fields).Keeps Site.results :=
    Session.keeps_bind (keeps_headersOf smi runner fields) fun _ => Session.keeps_pure _
  have hdetect : (detect smi runner).Keeps Site.results :=
    Session.keeps_bind (smi.keeps_run runner _) fun _ =>
      Session.keeps_ite (Session.keeps_throw _) (Session.keeps_pure _)
  cases request with
  | explicit fields => exact hmapping _
  | autoDetect =>
    refine Session.keeps_bind (Session.keeps_attempt hdetect) fun outcome => ?_
    cases outcome with
    | ok found => exact Session.keeps_bind (Session.keeps_change fun _ => rfl) fun _ => hmapping _
    | error e =>
      exact Session.keeps_ite (Session.keeps_bind (Session.keeps_change fun _ => rfl) fun _ =>
        Session.keeps_pure _) (Session.keeps_throw _)

/-! ## The table -/

/-- The list of fields that is queried: the given ones, then the required ones, each at its first
place. -/
def queryList (fields : List String) : List String :=
  (fields ++ required.map (·.queryField)).eraseDups

/-- What the trial query for a list of fields leads to, by the reply to it. -/
inductive TrialDecision (smi : Smi) (runner : Runner σ) (s : σ) (fields : List String) :
    Except Fault Mapping → Prop
  | /-- A table is shown: its headers go with the fields at the same places. -/
    headers {t : Table}
      (hshown : shown? fields (runner (smi.queryCall fields) s).1.outcome = some t) :
    TrialDecision smi runner s fields (.ok ⟨fields, fields.zip t.returnedFields⟩)
  | /-- No table is shown and the catalog has all fields: every header comes from it. -/
    catalog (hshown : shown? fields (runner (smi.queryCall fields) s).1.outcome = none)
      (hall : ∀ q ∈ fields, q ∈ Keyed.keys Field.catalog) :
    TrialDecision smi runner s fields (.ok ⟨fields, fields.map fun q => (q, catalogHeader q)⟩)
  | /-- No table is shown and the catalog lacks a field: the first such field is the fault. -/
    unexpected (hshown : shown? fields (runner (smi.queryCall fields) s).1.outcome = none)
      {before rest : List String} {q : String} (hfields : fields = before ++ q :: rest)
      (hbefore : ∀ p ∈ before, p ∈ Keyed.keys Field.catalog)
      (hq : q ∉ Keyed.keys Field.catalog) :
    TrialDecision smi runner s fields (.error (.unexpected ⟨q⟩))

/-- What a request leads to and the invocations on the way, by the replies to the question for help
and to the trial query. -/
inductive Decision (smi : Smi) (runner : Runner σ) (s : σ) :
    Request → Except Fault Mapping → List Invocation → Prop
  | /-- The choice is left to the tool, which lists no field: the whole catalog is taken. -/
    undetected (hlisted : listed (runner smi.helpCall s).1.outcome = []) :
    Decision smi runner s .autoDetect (.ok ⟨Keyed.keys catalog, catalog⟩) [smi.helpCall]
  | /-- The choice is left to the tool, which lists fields: they are tried. -/
    detected {found : List String} {result : Except Fault Mapping} (hfound : found ≠ [])
      (hlisted : listed (runner smi.helpCall s).1.outcome = found)
      (htrial : TrialDecision smi runner (runner smi.helpCall s).2 (queryList found) result) :
    Decision smi runner s .autoDetect result [smi.helpCall, smi.queryCall (queryList found)]
  | /-- Fields are given: they are tried. -/
    explicit {fields : List String} {result : Except Fault Mapping}
      (htrial : TrialDecision smi runner s (queryList fields) result) :
    Decision smi runner s (.explicit fields) result [smi.queryCall (queryList fields)]

/-- The headers of a sound list of fields follow the rules of the trial. -/
theorem mappingOf_decision (hrunner : runner.Reports) (smi : Smi) (fields : List String)
    (site : Site σ) :
    TrialDecision smi runner site.surroundings (queryList fields)
        ((mappingOf smi runner (withRequired fields)).on site).1 ∧
      ((mappingOf smi runner (withRequired fields)).on site).2.unlogged =
        (site.called runner (smi.queryCall (queryList fields))).unlogged := by
  have hnodup := withRequired_nodup fields
  -- That the list is distinct is all that its pairing with the headers needs to know of it.
  rw [withRequired_eq, ← queryList] at hnodup ⊢
  generalize queryList fields = names at hnodup ⊢
  cases hshown : shown? names (runner (smi.queryCall names) site.surroundings).1.outcome with
  | some t =>
    obtain ⟨s, hs, hheaders⟩ := headersOf_of_shown hshown
    obtain ⟨result, -, -, hparse⟩ := shown?_eq_some_iff.mp hshown
    rw [mappingOf, Session.on_bind_ok _ hheaders, Session.on_pure,
      Mapping.ofLists_eq hnodup (Table.length_returnedFields_of_parse hparse)]
    exact ⟨.headers hshown, hs⟩
  | none =>
    obtain ⟨s, hs, hheaders⟩ := headersOf_of_nothing hrunner hshown
    -- Without a table it is the catalog that decides.
    rcases catalog_cases names with hall | ⟨before, q, rest, hnames, hbefore, hq⟩
    · have hzip : names.zip (names.map catalogHeader) =
          names.map fun q => (q, catalogHeader q) := by
        simpa using List.zip_map' (f := id) (g := catalogHeader) (l := names)
      rw [catalogHeaders_of_forall hall] at hheaders
      rw [mappingOf, Session.on_bind_ok _ hheaders, Session.on_pure,
        Mapping.ofLists_eq hnodup (List.length_map _), hzip]
      exact ⟨.catalog hshown hall, hs⟩
    · rw [hnames, catalogHeaders_of_first hbefore hq, ← hnames] at hheaders
      rw [mappingOf, Session.on_bind_error _ hheaders]
      exact ⟨.unexpected hshown hnames hbefore hq, hs⟩

/-- Whatever the runner does, a mapping of fields and headers is sound. -/
theorem mappingOf_sound {fields : List String} {m : Mapping}
    (h : ((mappingOf smi runner (withRequired fields)).on site).1 = .ok m) : m.Sound := by
  obtain ⟨headers, hheaders, h⟩ := (Session.on_bind_eq_ok_iff _).mp h
  have hlength := length_of_headersOf hheaders
  cases h
  rw [Mapping.ofLists_eq (withRequired_nodup fields) hlength]
  exact Mapping.sound_zip hlength

/-- Whatever the runner does, a mapping that a request leads to is sound. -/
theorem resolve_sound {request : Request} {m : Mapping}
    (h : ((resolve request smi runner).on site).1 = .ok m) : m.Sound := by
  cases request with
  | explicit fields => exact mappingOf_sound h
  | autoDetect =>
    obtain ⟨outcome, -, h⟩ := (Session.on_bind_eq_ok_iff _).mp h
    cases outcome with
    | ok found =>
      obtain ⟨-, -, h⟩ := (Session.on_bind_eq_ok_iff _).mp h
      exact mappingOf_sound h
    | error e =>
      -- Only the catalog makes up for a question without an answer.
      dsimp only at h
      split at h
      · obtain ⟨-, -, h⟩ := (Session.on_bind_eq_ok_iff _).mp h
        cases h
        exact catalogMapping_sound
      · simp at h

/-- The resolution of a request through a runner that raises no other trouble follows the decision
table and asks the tool no more than the table says; a mapping that it gives is sound. -/
theorem resolve_decision (request : Request) (smi : Smi) {runner : Runner σ}
    (hrunner : runner.Reports) (site : Site σ) :
    (∃ calls, Decision smi runner site.surroundings request
        ((resolve request smi runner).on site).1 calls ∧
      ((resolve request smi runner).on site).2.calls = site.calls ++ calls) ∧
    ∀ m, ((resolve request smi runner).on site).1 = .ok m → m.Sound := by
  refine ⟨?_, fun m => resolve_sound⟩
  cases request with
  | explicit fields =>
    obtain ⟨htrial, hs⟩ := mappingOf_decision hrunner smi fields site
    exact ⟨_, .explicit htrial, congrArg Site.calls hs⟩
  | autoDetect =>
    by_cases hlisted : listed (runner smi.helpCall site.surroundings).1.outcome = []
    -- A question without an answer is the only call, since the catalog needs no trial.
    · obtain ⟨s, e, hs, he, hdetect⟩ := detect_of_nothing hrunner site hlisted
      have hresolve : (resolve .autoDetect smi runner).on site =
          (.ok catalogMapping, { s with records := s.records ++ [.plain smi.channel .warning
            ("Failed to auto-detect query fields, falling back to the built-in list: "
              ++ e.message)] }) := by
        rw [resolve, Session.on_bind, Session.on_attempt, hdetect]
        simp only [he, if_true]
        rw [Session.on_bind_ok _ (Session.on_note _ _ _ _), Session.on_pure]
      rw [hresolve, catalogMapping_eq]
      exact ⟨_, .undetected hlisted, congrArg Site.calls hs⟩
    · obtain ⟨s, hs, hdetect⟩ := detect_of_listed site hlisted
      generalize hfound : listed (runner smi.helpCall site.surroundings).1.outcome = found
        at hlisted hdetect
      -- The trial starts where the question for help has left the surroundings.
      let noted : Site σ := { s with records := s.records ++ [.plain smi.channel .info
        ("Auto-detected " ++ Text.integerText (withRequired found).length ++ " query fields")] }
      have hresolve : (resolve .autoDetect smi runner).on site =
          (mappingOf smi runner (withRequired found)).on noted := by
        rw [resolve, Session.on_bind, Session.on_attempt, hdetect]
        exact Session.on_bind_ok _ (Session.on_note _ _ _ _) _
      have hsurroundings : noted.surroundings = (runner smi.helpCall site.surroundings).2 :=
        congrArg Site.surroundings hs
      have hcalls : noted.calls = site.calls ++ [smi.helpCall] := congrArg Site.calls hs
      obtain ⟨htrial, hs'⟩ := mappingOf_decision hrunner smi found noted
      rw [hsurroundings] at htrial
      rw [hresolve]
      refine ⟨_, .detected hlisted hfound htrial, ?_⟩
      have hafter := congrArg Site.calls hs'
      simp only [Site.unlogged, Site.called, hcalls] at hafter
      rw [hafter, List.append_assoc]
      rfl

/-- A tool that ends every run with an error leads a request for the speed of the fan to a decision
of the table. -/
theorem resolve_failing_tool :
    (Runner.printing 9 "").Reports ∧
      (∃ calls, Decision ⟨["nvidia-smi"], some 10, "GPUCollector"⟩ (.printing 9 "") ()
          (.explicit ["fan.speed"])
          ((resolve (.explicit ["fan.speed"]) ⟨["nvidia-smi"], some 10, "GPUCollector"⟩
            (.printing 9 "")).on (Site.initial ())).1 calls ∧
        ((resolve (.explicit ["fan.speed"]) ⟨["nvidia-smi"], some 10, "GPUCollector"⟩
          (.printing 9 "")).on (Site.initial ())).2.calls = (Site.initial ()).calls ++ calls) ∧
      ∀ m, ((resolve (.explicit ["fan.speed"]) ⟨["nvidia-smi"], some 10, "GPUCollector"⟩
        (.printing 9 "")).on (Site.initial ())).1 = .ok m → m.Sound :=
  ⟨Runner.reports_printing 9 "",
    resolve_decision (.explicit ["fan.speed"]) ⟨["nvidia-smi"], some 10, "GPUCollector"⟩
      (Runner.reports_printing 9 "") (Site.initial ())⟩

end GpuMetrics.Field
