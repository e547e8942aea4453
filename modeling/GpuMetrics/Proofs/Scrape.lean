import GpuMetrics.Proofs.Families
import GpuMetrics.Proofs.Session

/-!
# What a scrape does

A scrape asks the runner once, and all that it does then follows from what the reply means to it: a
table, a failed run, or trouble that is no failed run (`Collector.finding`). For each of the three
there is one equation for the families and the site after the scrape: `scrape_of_table`,
`scrape_of_failure` and `scrape_of_fault`. Everything that is said about scrapes elsewhere rests on
these three.
-/

namespace GpuMetrics.Collector

variable {σ : Type} (c : Collector) (runner : Runner σ) (site : Site σ)

/-! ## What a reply means -/

/-- The invocation of every scrape. -/
def call : Invocation := c.smi.queryCall c.queryFields

/-- What a reply of the runner means to a scrape. -/
inductive Finding
  | /-- The tool has shown a table. -/
    table (t : Table)
  | /-- The run failed, or its output is no table. -/
    failure (f : RunFailure)
  | /-- The surroundings raised other trouble. -/
    fault (e : Fault)

/-- The failure of a run whose output is no table. -/
def unreadable (result : RunResult) (m : Table.Mismatch) : RunFailure :=
  ⟨.unreadable m.message, c.call.command, unknownExitCode, result.stdout, result.stderr⟩

/-- What a reply of the runner means to a scrape. -/
def finding : Except Fault RunResult → Finding
  | .error (.run f) => .failure f
  | .error e => .fault e
  | .ok result =>
    if result.exitCode = 0 then
      match Table.parse result.stdout c.queryFields with
      | .ok t => .table t
      | .error m => .failure (c.unreadable result m)
    else .failure (Smi.exitFailure c.call.command result)

/-- The site of a scrape when the runner has replied. -/
def queried : Site σ :=
  { site.called runner c.call with
    records := site.records ++
      c.smi.runRecords c.call.command (runner c.call site.surroundings).1.outcome }

/-! ## Asking for a table -/

/-- The table that is asked for, and the exit code that is kept. -/
theorem runQuery_on :
    (c.runQuery runner).on site =
      match c.finding (runner c.call site.surroundings).1.outcome with
      | .table t => (.ok t, { c.queried runner site with
          health := { site.health with lastExitCode := 0 } })
      | .failure f => (.error (.run f), { c.queried runner site with
          health := { site.health with lastExitCode := f.exitCode } })
      | .fault e => (.error e, c.queried runner site) := by
  have hrun : (Session.attempt (c.smi.run runner c.call.command)).on site =
      (.ok (Smi.accepted c.call.command (runner c.call site.surroundings).1.outcome),
        c.queried runner site) := by
    rw [Session.on_attempt, Smi.run_on]
    rfl
  unfold runQuery
  simp only
  rw [show c.smi.queryCommand c.queryFields = c.call.command from rfl, Session.on_bind_ok _ hrun]
  -- The exit code is kept at three places: for a failed run, for no table, and for a table.
  cases (runner c.call site.surroundings).1.outcome with
  | error e => cases e <;> rfl
  | ok result =>
    by_cases hcode : result.exitCode = 0
    · simp only [Smi.accepted, finding, hcode, if_true]
      cases Table.parse result.stdout c.queryFields with
      | error m => exact Session.on_bind_ok _ (Session.on_setHealth _ _) _
      | ok t => exact Session.on_bind_ok _ (Session.on_setHealth _ _) _
    · simp only [Smi.accepted, finding, hcode, if_false]
      exact Session.on_bind_ok _ (Session.on_setHealth _ _) _

/-! ## Telling the listener -/

/-- What the listener does about a failed run, if there is one and the run ended by its exit
code. -/
def reaction? (f : RunFailure) : Option Reaction :=
  if f.cause.isExit then c.listener.map fun listener => listener f else none

/-- The listener does something if there is one and the run ended by its exit code. -/
theorem isSome_reaction? (f : RunFailure) :
    (c.reaction? f).isSome = (f.cause.isExit && c.listener.isSome) := by
  unfold reaction?
  cases f.cause.isExit <;> simp

/-- The record that says that a listener is told. -/
def announcement : Log.Record :=
  .plain c.channel .error "nvidia-smi exited with an error, requesting shutdown"

/-- The site after a failed scrape whose run has left the given site: the failure is counted and
logged, and the listener has been told if there is one. -/
def failed (f : RunFailure) (s : Site σ) : Site σ :=
  { s with
    health := ⟨.failure, f.exitCode, s.health.failedScrapes + 1⟩
    records := s.records ++ c.failureRecord f ::
      (match c.reaction? f with
        | some reaction => c.announcement :: reaction.records
        | none => [])
    notices := s.notices ++ (if (c.reaction? f).isSome then [f] else [])
    stopped := s.stopped || (c.reaction? f).any (·.requestsStop) }

/-- The listener is told of a run that ended by its exit code, and of no other. -/
theorem announce_on (f : RunFailure) :
    (c.announce f).on site = match c.reaction? f with
      | none => (.ok (), site)
      | some reaction =>
        ((match reaction.fault with
          | some e => .error e
          | none => .ok ()),
        { site with
          notices := site.notices ++ [f]
          records := site.records ++ [c.announcement] ++ reaction.records
          stopped := site.stopped || reaction.requestsStop }) := by
  unfold announce reaction?
  cases c.listener with
  | none => cases f.cause.isExit <;> rfl
  | some listener =>
    cases f.cause.isExit with
    | false => rfl
    | true =>
      simp only [if_true, Option.map_some]
      rw [Session.on_bind_ok _ (Session.on_note _ _ _ _), notify,
        Session.on_bind_ok _ (Session.on_change _ _)]
      cases (listener f).fault <;> rfl

/-- The two families of a failed scrape are given if their names are granted. -/
theorem report_on (health : Health) :
    (do
      let exit ← Session.ofExcept (c.exitCodeSample health.lastExitCode)
      let failed ← Session.ofExcept (c.failedScrapesSample health.failedScrapes)
      return [exit, failed] : Session σ (List Metric.Family)).on site =
    (granting c.rule c.failureNames (c.failureReport health), site) := by
  rw [Session.on_bind, Session.on_ofExcept, exitCodeSample_eq]
  simp only [failureNames, granting]
  cases c.rule.check c.exitCodeName with
  | error e => rfl
  | ok _ =>
    simp only
    rw [Session.on_bind, Session.on_ofExcept, failedScrapesSample_eq]
    simp only [granting]
    cases c.rule.check c.failureName <;> rfl

/-- The families of a failed scrape, after the listener has been told. -/
theorem failureFamilies_on (f : RunFailure) (h : site.health.lastExitCode = f.exitCode)
    (hstate : site.health.state = .failure) :
    (c.failureFamilies f).on site =
      ((match (c.reaction? f).bind (·.fault) with
        | some e => .error e
        | none => granting c.rule c.failureNames (c.failureReport (c.failed f site).health)),
      c.failed f site) := by
  -- State and exit code are set before the failure is counted, so its health is known in full.
  have hhealth : { site.health with failedScrapes := site.health.failedScrapes + 1 } =
      (⟨.failure, f.exitCode, site.health.failedScrapes + 1⟩ : Health) := by
    rw [← h, ← hstate]
  rw [failureFamilies, Session.on_bind_ok _ (Session.on_setHealth _ _),
    Session.on_bind_ok _ (Session.on_log _ _), Session.on_bind, announce_on]
  cases hreaction : c.reaction? f with
  | none =>
    simp only
    rw [Session.on_bind_ok _ (Session.on_look _ _), report_on, hhealth]
    simp [failed, hreaction]
  | some reaction =>
    cases hfault : reaction.fault with
    | some e => simp [failed, hreaction, hfault, hhealth]
    | none =>
      simp only [hfault]
      rw [Session.on_bind_ok _ (Session.on_look _ _), report_on, hhealth]
      simp [failed, hreaction, hfault]

/-! ## The families of a table -/

/-- The gauge that tells devices apart, without samples. -/
def emptyInfo : Metric.Family := Metric.gaugeWith c.gpuInfoName gpuInfoDocumentation []

/-- The records of a table: the fields that have no family, and the cells that are no numbers. -/
def tableRecords (t : Table) : List Log.Record :=
  c.fieldRecords ++ (c.harvest c.emptyInfo t).records

/-- The families of a table: the exit code zero, what tells the devices apart, and the fields. -/
def tableReport (t : Table) : List Metric.Family :=
  c.exitGauge 0 :: c.familiesOf (c.harvest c.emptyInfo t)

/-- The families of a table are given, and its records written, if the name of the gauge that tells
devices apart is granted. -/
theorem tableFamilies_on (t : Table) :
    (c.tableFamilies t).on site =
      match granting c.rule [c.gpuInfoName] () with
      | .ok _ => (.ok (c.familiesOf (c.harvest c.emptyInfo t)),
          { site with records := site.records ++ c.tableRecords t })
      | .error e => (.error e, site) := by
  rw [tableFamilies, Session.on_bind, Session.on_ofExcept, gpuInfoFamily, named_gauge]
  simp only [granting]
  cases c.rule.check c.gpuInfoName with
  | error e => rfl
  | ok _ => exact Session.on_bind_ok _ (Session.on_logAll _ _) _

/-! ## The three ways of a scrape -/

/-- A scrape that finds a table. Its families are given if the names of the two fixed ones are
granted. -/
theorem scrape_of_table {t : Table}
    (h : c.finding (runner c.call site.surroundings).1.outcome = .table t) :
    (c.scrape runner).on site =
      (granting c.rule c.successNames
          ⟨c.exitGauge 0 :: c.familiesOf (c.harvest c.emptyInfo t), false⟩,
        { c.queried runner site with
          health := ⟨.success, 0, site.health.failedScrapes⟩
          records := (c.queried runner site).records ++
            match granting c.rule c.successNames () with
            | .ok _ => c.tableRecords t
            | .error _ => [] }) := by
  have hquery : (Session.attempt (c.runQuery runner)).on
      { site with health := { site.health with state := .scraping } } =
      (.ok (.ok t), { c.queried runner site with
        health := ⟨.scraping, 0, site.health.failedScrapes⟩ }) := by
    rw [Session.on_attempt, runQuery_on, h]
    rfl
  rw [scrape, Session.on_bind_ok _ (Session.on_setHealth _ _), Session.on_bind_ok _ hquery]
  simp only
  rw [Session.on_bind_ok _ (Session.on_setHealth _ _), Session.on_bind_ok _ (Session.on_look _ _),
    Session.on_bind, Session.on_ofExcept, exitCodeSample_eq]
  simp only [successNames, granting]
  -- If the first name is refused, the table is not looked at and nothing more is logged.
  cases c.rule.check c.exitCodeName with
  | error e => simp
  | ok _ =>
    simp only
    rw [Session.on_bind, tableFamilies_on]
    simp only [granting]
    cases c.rule.check c.gpuInfoName with
    | error e => simp
    | ok _ => rfl

/-- A scrape whose run failed. The failure is counted, and its two families are given if their names
are granted and the listener raises no fault. -/
theorem scrape_of_failure {f : RunFailure}
    (h : c.finding (runner c.call site.surroundings).1.outcome = .failure f) :
    (c.scrape runner).on site =
      ((match (c.reaction? f).bind (·.fault) with
        | some e => .error e
        | none => granting c.rule c.failureNames
            ⟨c.failureReport (c.failed f (c.queried runner site)).health, true⟩),
      c.failed f (c.queried runner site)) := by
  have hquery : (Session.attempt (c.runQuery runner)).on
      { site with health := { site.health with state := .scraping } } =
      (.ok (.error (.run f)), { c.queried runner site with
        health := ⟨.scraping, f.exitCode, site.health.failedScrapes⟩ }) := by
    rw [Session.on_attempt, runQuery_on, h]
    rfl
  -- The state is set to failure before the families are made.
  have hfamilies : (c.failureFamilies f).on { c.queried runner site with
      health := ⟨.failure, f.exitCode, site.health.failedScrapes⟩ } = _ :=
    failureFamilies_on c _ f rfl rfl
  rw [scrape, Session.on_bind_ok _ (Session.on_setHealth _ _), Session.on_bind_ok _ hquery]
  simp only
  rw [Session.on_bind_ok _ (Session.on_setHealth _ _)]
  cases hfault : (c.reaction? f).bind (·.fault) with
  | some e =>
    rw [hfault] at hfamilies
    exact Session.on_bind_error _ hfamilies _
  | none =>
    rw [hfault] at hfamilies
    simp only
    -- Marking the families as those of a failed scrape does not change whether they are granted.
    rw [← map_granting c.rule c.failureNames
      (c.failureReport (c.failed f (c.queried runner site)).health) fun fs => (⟨fs, true⟩ : Yield)]
    cases hgrant : granting c.rule c.failureNames
      (c.failureReport (c.failed f (c.queried runner site)).health) with
    | error e => exact Session.on_bind_error _ (hfamilies.trans (congrArg (·, _) hgrant)) _
    | ok fs => exact Session.on_bind_ok _ (hfamilies.trans (congrArg (·, _) hgrant)) _

/-- A scrape in which other trouble was raised ends in that trouble, and its end is not noted. -/
theorem scrape_of_fault {e : Fault}
    (h : c.finding (runner c.call site.surroundings).1.outcome = .fault e) :
    (c.scrape runner).on site =
      (.error e, { c.queried runner site with
        health := { site.health with state := .scraping } }) := by
  have hquery : (Session.attempt (c.runQuery runner)).on
      { site with health := { site.health with state := .scraping } } =
      (.ok (.error e), { c.queried runner site with
        health := { site.health with state := .scraping } }) := by
    rw [Session.on_attempt, runQuery_on, h]
    rfl
  -- What is found to be a fault is no failed run, and nothing else is caught.
  have hother (f : RunFailure) : e ≠ .run f := by
    rintro rfl
    cases hreply : (runner c.call site.surroundings).1.outcome with
    | error e => cases e <;> simp [finding, hreply] at h
    | ok result =>
      simp only [finding, hreply] at h
      split at h
      · split at h <;> cases h
      · cases h
  rw [scrape, Session.on_bind_ok _ (Session.on_setHealth _ _), Session.on_bind_ok _ hquery]
  cases e with
  | run f => exact absurd rfl (hother f)
  | _ => rfl

/-! ## What a scrape comes to -/

/-- What a runner that reports leaves is a table or a failed run. -/
theorem finding_of_reports {runner : Runner σ} (hrunner : runner.Reports) (s : σ) :
    (∃ t, c.finding (runner c.call s).1.outcome = .table t) ∨
      ∃ f, c.finding (runner c.call s).1.outcome = .failure f := by
  cases hreply : (runner c.call s).1.outcome with
  | error e =>
    obtain ⟨f, rfl⟩ := hrunner _ _ _ hreply
    exact .inr ⟨f, rfl⟩
  | ok result =>
    simp only [finding]
    by_cases hcode : result.exitCode = 0
    · rw [if_pos hcode]
      cases Table.parse result.stdout c.queryFields with
      | ok t => exact .inl ⟨t, rfl⟩
      | error m => exact .inr ⟨_, rfl⟩
    · rw [if_neg hcode]
      exact .inr ⟨_, rfl⟩

/-- The health after a scrape that failed. -/
def healthAfter (f : RunFailure) (health : Health) : Health :=
  ⟨.failure, f.exitCode, health.failedScrapes + 1⟩

/-- A scrape is one call. -/
theorem scrape_calls : ((c.scrape runner).on site).2.calls = site.calls ++ [c.call] := by
  cases hfinding : c.finding (runner c.call site.surroundings).1.outcome with
  | table t => rw [scrape_of_table c runner site hfinding]; rfl
  | failure f => rw [scrape_of_failure c runner site hfinding]; rfl
  | fault e => rw [scrape_of_fault c runner site hfinding]; rfl

variable {c runner site}

/-- A scrape that gives families has found a table or a failed run, and the names of the two fixed
families that it gives are allowed. -/
theorem scrape_eq_ok {y : Yield} (h : ((c.scrape runner).on site).1 = .ok y) :
    (∃ t, c.finding (runner c.call site.surroundings).1.outcome = .table t ∧
        y = ⟨c.tableReport t, false⟩ ∧ ∀ n ∈ c.successNames, c.rule.check n = .ok ()) ∨
      ∃ f, c.finding (runner c.call site.surroundings).1.outcome = .failure f ∧
        y = ⟨c.failureReport (healthAfter f site.health), true⟩ ∧
        ∀ n ∈ c.failureNames, c.rule.check n = .ok () := by
  cases hfinding : c.finding (runner c.call site.surroundings).1.outcome with
  | table t =>
    rw [scrape_of_table c runner site hfinding] at h
    obtain ⟨rfl, hnames⟩ := granting_eq_ok_iff.mp h
    exact .inl ⟨t, rfl, rfl, hnames⟩
  | failure f =>
    rw [scrape_of_failure c runner site hfinding] at h
    cases hfault : (c.reaction? f).bind (·.fault) with
    | some e =>
      rw [hfault] at h
      cases h
    | none =>
      rw [hfault] at h
      obtain ⟨rfl, hnames⟩ := granting_eq_ok_iff.mp h
      exact .inr ⟨f, rfl, rfl, hnames⟩
  | fault e =>
    rw [scrape_of_fault c runner site hfinding] at h
    cases h

section Finding

variable {c : Collector} {reply : Except Fault RunResult} {result : RunResult}

/-- A run with the exit code zero whose answer is a table is found as this table. -/
theorem finding_of_parse (hreply : reply = .ok result) (hcode : result.exitCode = 0) {t : Table}
    (h : Table.parse result.stdout c.queryFields = .ok t) : c.finding reply = .table t := by
  rw [hreply, finding, if_pos hcode, h]

/-- A run with the exit code zero whose answer is no table is found as a failure. -/
theorem finding_of_mismatch (hreply : reply = .ok result) (hcode : result.exitCode = 0)
    {m : Table.Mismatch} (h : Table.parse result.stdout c.queryFields = .error m) :
    c.finding reply = .failure (c.unreadable result m) := by
  rw [hreply, finding, if_pos hcode, h]

end Finding

/-- A table that was found was printed by a run that ended with the exit code zero. -/
theorem finding_eq_table {reply : Except Fault RunResult} {t : Table}
    (h : c.finding reply = .table t) :
    ∃ result, reply = .ok result ∧ result.exitCode = 0 ∧
      Table.parse result.stdout c.queryFields = .ok t := by
  cases reply with
  | error e => cases e <;> cases h
  | ok result =>
    simp only [finding] at h
    by_cases hcode : result.exitCode = 0
    · rw [if_pos hcode] at h
      cases hparse : Table.parse result.stdout c.queryFields with
      | error m =>
        rw [hparse] at h
        cases h
      | ok found =>
        rw [hparse] at h
        cases h
        exact ⟨result, rfl, hcode, hparse⟩
    · rw [if_neg hcode] at h
      cases h

end GpuMetrics.Collector
