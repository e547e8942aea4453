import GpuMetrics.Proofs.Emission
import GpuMetrics.Proofs.Resolved

/-!
# The health of a collector over a history

What a collector knows of its scrapes follows from the replies that the runner gave to them,
whatever operations were carried out in between and in whatever order: the number of failures, the
state, the exit code, the calls and the notices (`Reflects`). One operation keeps this
(`Reflects.step`), since a scrape asks once and every other thing that an operation does is quiet,
and so does a history (`reflects_history`). Whenever a scrape fails, its families are the exit code
and the number of failures, and no others.
-/

namespace GpuMetrics

variable {σ : Type}

/-- A runner that leaves a result, or reports a run that was not ended by its exit code and has none
that is known. -/
def Runner.Tame (runner : Runner σ) : Prop :=
  ∀ call s e, (runner call s).1.outcome = .error e →
    ∃ f, e = .run f ∧ f.cause.isExit = false ∧ f.exitCode = -1

/-- A runner that leaves a result, or reports a run that was not ended by its exit code. -/
def Runner.ReportsNoExit (runner : Runner σ) : Prop :=
  ∀ call s e, (runner call s).1.outcome = .error e → ∃ f, e = .run f ∧ f.cause.isExit = false

/-- A tame runner reports no exit. -/
theorem Runner.Tame.reportsNoExit {runner : Runner σ} (h : runner.Tame) :
    runner.ReportsNoExit := by
  intro call s e he
  obtain ⟨f, hf, hexit, -⟩ := h call s e he
  exact ⟨f, hf, hexit⟩

namespace Collector

variable (c : Collector)

/-! ## What a reply stands for -/

/-- Whether a scrape fails with a reply: the run failed, its exit code is not zero, or its output is
no table. -/
def fails : Except Fault RunResult → Bool
  | .error _ => true
  | .ok result => result.exitCode ≠ 0 || !(Table.parse result.stdout c.queryFields).isOk

/-- The exit code that a reply leaves behind: that of the process, unless the run failed otherwise
or its output is no table. -/
def exitCodeOf : Except Fault RunResult → Int
  | .error _ => -1
  | .ok result =>
    if result.exitCode ≠ 0 then result.exitCode
    else if (Table.parse result.stdout c.queryFields).isOk then 0 else -1

/-- The failure that the listener is told of, if the exit code is not zero. -/
def exitFailure? : Except Fault RunResult → Option RunFailure
  | .error _ => none
  | .ok result =>
    if result.exitCode ≠ 0 then some (Smi.exitFailure c.call.command result) else none

/-- If the runner reports no exit, its reply is a table or a failed run for a scrape, and the
listener is told of the failed run if it ended by its exit code. -/
theorem finding_of_reportsNoExit {runner : Runner σ} (hrunner : runner.ReportsNoExit)
    (call : Invocation) (s : σ) :
    let reply := (runner call s).1.outcome
    (∃ t, c.finding reply = .table t ∧ c.fails reply = false ∧ c.exitFailure? reply = none) ∨
    ∃ f, c.finding reply = .failure f ∧ c.fails reply = true ∧
      c.exitFailure? reply = if f.cause.isExit then some f else none := by
  intro reply
  cases hreply : reply with
  | error e =>
    obtain ⟨f, rfl, hexit⟩ := hrunner call s e hreply
    exact .inr ⟨f, rfl, rfl, by simp [exitFailure?, hexit]⟩
  | ok result =>
    by_cases hcode : result.exitCode = 0
    · cases hparse : Table.parse result.stdout c.queryFields with
      | ok t =>
        refine .inl ⟨t, ?_, ?_, ?_⟩ <;>
          simp [finding, fails, exitFailure?, hcode, hparse, Except.isOk, Except.toBool]
      | error m =>
        refine .inr ⟨c.unreadable result m, ?_, ?_, ?_⟩ <;>
          simp [finding, fails, exitFailure?, hcode, hparse, Except.isOk, Except.toBool,
            unreadable, RunFailure.Cause.isExit]
    · refine .inr ⟨Smi.exitFailure c.call.command result, ?_, ?_, ?_⟩ <;>
        simp [finding, fails, exitFailure?, hcode, Smi.exitFailure, RunFailure.Cause.isExit]

/-- The exit code that the reply of a tame runner leaves behind is that of what it stands for. -/
theorem exitCodeOf_eq {runner : Runner σ} (hrunner : runner.Tame) (call : Invocation) (s : σ) :
    c.exitCodeOf (runner call s).1.outcome =
      match c.finding (runner call s).1.outcome with
      | .table _ => 0
      | .failure f => f.exitCode
      | .fault _ => -1 := by
  cases hreply : (runner call s).1.outcome with
  | error e =>
    obtain ⟨f, rfl, -, hcode⟩ := hrunner call s e hreply
    exact hcode.symm
  | ok result =>
    by_cases hcode : result.exitCode = 0
    · cases hparse : Table.parse result.stdout c.queryFields with
      | ok t => simp [finding, exitCodeOf, hcode, hparse, Except.isOk, Except.toBool]
      | error m =>
        simp [finding, exitCodeOf, hcode, hparse, Except.isOk, Except.toBool, unreadable,
          unknownExitCode]
    · simp [finding, exitCodeOf, hcode, Smi.exitFailure]

/-- The reply of a tame runner is a table or a failed run for a scrape, as it stands for. -/
theorem finding_cases {runner : Runner σ} (hrunner : runner.Tame) (call : Invocation) (s : σ) :
    let reply := (runner call s).1.outcome
    (∃ t, c.finding reply = .table t ∧ c.fails reply = false ∧ c.exitCodeOf reply = 0 ∧
      c.exitFailure? reply = none) ∨
    ∃ f, c.finding reply = .failure f ∧ c.fails reply = true ∧ c.exitCodeOf reply = f.exitCode ∧
      c.exitFailure? reply = if f.cause.isExit then some f else none := by
  intro reply
  have hcode := c.exitCodeOf_eq hrunner call s
  rcases c.finding_of_reportsNoExit hrunner.reportsNoExit call s with
    ⟨t, hfinding, hfails, hexit⟩ | ⟨f, hfinding, hfails, hexit⟩
  · rw [hfinding] at hcode
    exact .inl ⟨t, hfinding, hfails, hcode, hexit⟩
  · rw [hfinding] at hcode
    exact .inr ⟨f, hfinding, hfails, hcode, hexit⟩

/-! ## Operations -/

/-- An operation on a collector. -/
inductive Op
  | /-- The families are described. -/
    describe
  | /-- The tool is asked for a table. -/
    scrape
  | /-- A reader takes the families of a scrape. -/
    collect (reader : Reader)
  | /-- The families of a scrape are pushed into a sink. -/
    collectInto {φ : Type} (sink : Sink φ) (tries : Nat) (start : φ)

/-- Whether an operation scrapes. A collection does not after a stop request. -/
def Op.scrapes (stopped : Bool) : Op → Bool
  | describe => false
  | scrape => true
  | collect _ => !stopped
  | collectInto _ _ _ => !stopped

variable (runner : Runner σ)

/-- The site after an operation. -/
def after (site : Site σ) : Op → Site σ
  | .describe => ((c.describe).on site).2
  | .scrape => ((c.scrape runner).on site).2
  | .collect reader => ((c.collectFor runner reader).on site).2
  | .collectInto sink tries start => ((c.collectInto runner sink tries start).on site).2

/-- The reply to the scrape of an operation, if it scrapes. -/
def replyTo (site : Site σ) (op : Op) : List (Except Fault RunResult) :=
  if op.scrapes site.stopped then [(runner c.call site.surroundings).1.outcome] else []

/-- The site after some operations. -/
def history (site : Site σ) (ops : List Op) : Site σ := ops.foldl (c.after runner) site

/-- The replies to the scrapes of some operations. -/
def replies (site : Site σ) : List Op → List (Except Fault RunResult)
  | [] => []
  | op :: rest => c.replyTo runner site op ++ replies (c.after runner site op) rest

/-- But for the log and the stop request, an operation does what its scrape does. -/
theorem after_quieted (site : Site σ) (op : Op) :
    (c.after runner site op).quieted =
      if op.scrapes site.stopped then ((c.scrape runner).on site).2.quieted else site.quieted := by
  cases op with
  | describe => exact c.quiet_describe site
  | scrape => rfl
  | collect reader =>
    rw [after, collectFor_quieted]
    cases h : site.stopped <;> simp [Op.scrapes]
  | collectInto sink tries start =>
    rw [after, collectInto_quieted]
    cases h : site.stopped <;> simp [Op.scrapes]

/-! ## Replies and health -/

/-- A site that is in line with the replies to the scrapes since a starting site. Each scrape asked
for the query fields with the given timeout, and `told` says whether there is a listener. -/
structure Reflects (timeout : Option Float) (told : Bool) (start : Site σ)
    (replies : List (Except Fault RunResult)) (site : Site σ) : Prop where
  /-- The failed scrapes are counted. -/
  failedScrapes : site.health.failedScrapes = replies.countP c.fails
  /-- The state is that of the latest scrape. -/
  state : site.health.state = match replies.getLast? with
    | none => .idle
    | some reply => if c.fails reply then .failure else .success
  /-- The exit code is that of the latest scrape. -/
  lastExitCode : site.health.lastExitCode = match replies.getLast? with
    | none => -1
    | some reply => c.exitCodeOf reply
  /-- Each scrape was one call. -/
  calls : site.calls = start.calls ++
    List.replicate replies.length ⟨c.smi.queryCommand c.queryFields, timeout⟩
  /-- The listener was told once of each exit code other than zero, if it is told at all. -/
  notices : site.notices = start.notices ++
    if told then replies.filterMap c.exitFailure? else []

variable {c runner}

/-- What a site is in line with depends on its health, its calls and its notices. -/
theorem Reflects.of_quieted {timeout : Option Float} {told : Bool} {start s s' : Site σ}
    {replies : List (Except Fault RunResult)} (h : c.Reflects timeout told start replies s)
    (hs : s'.quieted = s.quieted) : c.Reflects timeout told start replies s' where
  failedScrapes := (congrArg (·.health.failedScrapes) hs).trans h.failedScrapes
  state := (congrArg (·.health.state) hs).trans h.state
  lastExitCode := (congrArg (·.health.lastExitCode) hs).trans h.lastExitCode
  calls := (congrArg Site.calls hs).trans h.calls
  notices := (congrArg Site.notices hs).trans h.notices

/-- One scrape brings its reply into line. -/
theorem Reflects.scrape (hrunner : runner.Tame) {start site : Site σ}
    {replies : List (Except Fault RunResult)}
    (h : c.Reflects c.smi.timeout c.listener.isSome start replies site) :
    c.Reflects c.smi.timeout c.listener.isSome start
      (replies ++ [(runner c.call site.surroundings).1.outcome])
      ((c.scrape runner).on site).2 := by
  rcases c.finding_cases hrunner c.call site.surroundings with
    ⟨t, hfinding, hfails, hcode, hexit⟩ | ⟨f, hfinding, hfails, hcode, hexit⟩
  -- One case for a table and one for a failure; the fields are gone through in their order.
  · rw [scrape_of_table c runner site hfinding]
    refine ⟨?_, ?_, ?_, ?_, ?_⟩
    · simp [h.failedScrapes, hfails]
    · simp [hfails]
    · simp [hcode]
    · simp [queried, Site.called, h.calls, call, Smi.queryCall, List.replicate_succ']
    · simp [queried, Site.called, h.notices, hexit]
  · rw [scrape_of_failure c runner site hfinding]
    refine ⟨?_, ?_, ?_, ?_, ?_⟩
    · simp [failed, queried, Site.called, h.failedScrapes, hfails]
    · simp [failed, hfails]
    · simp [failed, hcode]
    · simp [failed, queried, Site.called, h.calls, call, Smi.queryCall, List.replicate_succ']
    · simp only [failed, queried, Site.called, h.notices, isSome_reaction?]
      cases c.listener.isSome <;> cases hcause : f.cause.isExit <;> simp [hexit, hcause]

/-- One operation brings the reply to its scrape into line, if it scrapes. -/
theorem Reflects.step (hrunner : runner.Tame) {start site : Site σ}
    {replies : List (Except Fault RunResult)}
    (h : c.Reflects c.smi.timeout c.listener.isSome start replies site) (op : Op) :
    c.Reflects c.smi.timeout c.listener.isSome start (replies ++ c.replyTo runner site op)
      (c.after runner site op) := by
  have hafter := c.after_quieted runner site op
  rw [replyTo]
  split at hafter
  · next hscrapes =>
    rw [if_pos hscrapes]
    exact (h.scrape hrunner).of_quieted hafter
  · next hscrapes =>
    rw [if_neg hscrapes, List.append_nil]
    exact h.of_quieted hafter

/-- Operations one after the other bring the replies to their scrapes into line. -/
theorem Reflects.run (hrunner : runner.Tame) {start site : Site σ}
    {replies : List (Except Fault RunResult)}
    (h : c.Reflects c.smi.timeout c.listener.isSome start replies site) (ops : List Op) :
    c.Reflects c.smi.timeout c.listener.isSome start (replies ++ c.replies runner site ops)
      (c.history runner site ops) := by
  induction ops generalizing site replies with
  | nil => simpa [Collector.replies, history] using h
  | cons op rest ih =>
    -- The replies so far grow by those of the first operation, and the rest starts from there.
    rw [Collector.replies, ← List.append_assoc]
    exact ih (h.step hrunner op)

/-! ## Failed scrapes -/

variable (c runner)

/-- The next scrape fails, and these are its families: they are given if their names are granted, a
reader that stays receives them, and a sink is offered them. -/
structure GivesReport (site : Site σ) (report : List Metric.Family) : Prop where
  /-- The scrape gives the families if their names are granted. -/
  scrape : ((c.scrape runner).on site).1 = granting c.rule c.failureNames ⟨report, true⟩
  /-- The names are granted under an admitted stem. -/
  granted : c.rule.Admits c.stem → ((c.scrape runner).on site).1 = .ok ⟨report, true⟩
  /-- A reader that stays receives the families. -/
  collect : site.stopped = false → ∀ reader : Reader, (∀ n, reader.leaves n = false) →
    ((c.collectFor runner reader).on site).1 = granting c.rule c.failureNames report
  /-- A sink is offered the families. -/
  collectInto : site.stopped = false → c.rule.Admits c.stem →
    ∀ {φ : Type} (sink : Sink φ) (tries : Nat) (start : φ),
      (c.collectInto runner sink tries start).on site =
        (c.deliver true sink tries 0 report start).on ((c.scrape runner).on site).2

variable {c runner}

/-- A scrape that fails gives the exit code and the number of failures after it. -/
theorem givesReport_of_fails (hrunner : runner.Tame)
    (hlistener : ∀ listener, c.listener = some listener → ∀ f, (listener f).fault = none)
    (site : Site σ) (h : c.fails (runner c.call site.surroundings).1.outcome = true) :
    c.GivesReport runner site (c.failureReport ((c.scrape runner).on site).2.health) := by
  obtain ⟨f, hfinding⟩ :
      ∃ f, c.finding (runner c.call site.surroundings).1.outcome = .failure f := by
    rcases c.finding_cases hrunner c.call site.surroundings with ⟨t, -, hfails, -⟩ | ⟨f, hf, -⟩
    · rw [hfails] at h
      cases h
    · exact ⟨f, hf⟩
  -- A listener that returns leaves it to the names whether the families are given.
  have hreaction : (c.reaction? f).bind (·.fault) = none := by
    rw [reaction?]
    split
    · cases hc : c.listener with
      | none => rfl
      | some listener => exact hlistener listener hc f
    · rfl
  have hscrape : ((c.scrape runner).on site).1 = granting c.rule c.failureNames
      ⟨c.failureReport ((c.scrape runner).on site).2.health, true⟩ := by
    rw [scrape_of_failure c runner site hfinding, hreaction]
  have hgranted (hadmits : c.rule.Admits c.stem) : ((c.scrape runner).on site).1 =
      .ok ⟨c.failureReport ((c.scrape runner).on site).2.health, true⟩ := by
    rw [hscrape]
    exact granting_fixed hadmits (fun n hn => List.mem_append_left _ hn) _
  refine ⟨hscrape, hgranted, fun hstopped reader hstays => ?_,
    fun hstopped hadmits => fun sink tries start => ?_⟩
  · refine collectFor_of_failed hstopped ?_ hstays
    rw [map_granting]
    exact hscrape
  · exact collectInto_of_failed hstopped (hgranted hadmits) sink tries start

/-! ## Histories -/

/-- After every history of operations on a new collector, what is known of its scrapes is in line
with the replies to them, and a scrape that fails next gives the exit code and the number of
failures after it and no other family. -/
theorem reflects_history {settings : CollectorSettings} {rule : Metric.NameRule}
    {listener : Option Listener} {channel : String} {known : Option Field.Mapping}
    {maker : Runner σ} {made start : Site σ} (hmade : made.health = .initial)
    (hbuild : (build settings rule listener channel known maker).on made = (.ok c, start))
    (hrunner : runner.Tame) (hlistener : ∀ l, listener = some l → ∀ f, (l f).fault = none)
    (ops : List Op) :
    c.Reflects (some settings.commandTimeout) (settings.shutdownOnError && listener.isSome) start
        (c.replies runner start ops) (c.history runner start ops) ∧
      (c.fails (runner c.call (c.history runner start ops).surroundings).1.outcome = true →
        c.GivesReport runner (c.history runner start ops)
          (c.failureReport ((c.scrape runner).on (c.history runner start ops)).2.health)) := by
  have hstart : start.health = .initial := by
    rw [← hmade, ← keeps_build settings rule listener channel known maker made, hbuild]
  have hbuild := congrArg (·.1) hbuild
  obtain ⟨smi, mapping, hsmi, rfl, -⟩ := build_eq_ok hbuild
  have htold : (ofMapping settings rule listener smi mapping).listener.isSome =
      (settings.shutdownOnError && listener.isSome) := by
    cases hshutdown : settings.shutdownOnError <;> simp [ofMapping, hshutdown]
  have hreturns : ∀ l, (ofMapping settings rule listener smi mapping).listener = some l →
      ∀ f, (l f).fault = none := by
    intro l hl
    simp only [ofMapping] at hl
    split at hl
    · exact hlistener l hl
    · cases hl
  -- A new collector is in line with no replies at all, and the run starts from there.
  have hempty : (ofMapping settings rule listener smi mapping).Reflects smi.timeout
      (ofMapping settings rule listener smi mapping).listener.isSome start [] start := by
    refine ⟨?_, ?_, ?_, ?_, ?_⟩ <;> simp [hstart, Health.initial, unknownExitCode]
  have htimeout : (ofMapping settings rule listener smi mapping).smi.timeout =
      some settings.commandTimeout := timeout_of_smiOf hsmi
  have hrun := hempty.run hrunner ops
  rw [List.nil_append, htold, htimeout] at hrun
  exact ⟨hrun, givesReport_of_fails hrunner hreturns _⟩

/-- The collector of the default settings, for the fields of the catalog. -/
def defaultCollector : Collector :=
  ofMapping {} .plainName none ⟨["nvidia-smi"], some 10, "main.GPUCollector"⟩ Field.catalogMapping

/-- The default settings lead to this collector if the mapping is known. -/
theorem build_defaultCollector (runner : Runner σ) (site : Site σ) :
    (build {} .plainName none "main" (some Field.catalogMapping) runner).on site =
      (.ok defaultCollector,
        { site with records := site.records ++ defaultCollector.openingRecords }) :=
  build_of_known rfl _ _ _ _ _

/-- With a tool that ends every run with an error, a scrape and a collection are two failures. -/
theorem reflects_failing_tool :
    (Runner.printing 9 "").Tame ∧
      ∃ start, (build {} .plainName none "main" (some Field.catalogMapping)
          (.printing 9 "")).on (Site.initial ()) = (.ok defaultCollector, start) ∧
        defaultCollector.Reflects (some 10) false start
          (defaultCollector.replies (.printing 9 "") start [.scrape, .collect .patient])
          (defaultCollector.history (.printing 9 "") start [.scrape, .collect .patient]) ∧
        (defaultCollector.history (.printing 9 "") start
          [.scrape, .collect .patient]).health.failedScrapes = 2 := by
  have htame : (Runner.printing 9 "").Tame := by
    intro call s e h
    cases h
  have hbuild := build_defaultCollector (.printing 9 "") (Site.initial ())
  refine ⟨htame, _, hbuild, ?_⟩
  have hhistory := (reflects_history rfl hbuild htame (fun _ h => nomatch h)
    [.scrape, .collect .patient]).1
  let reply : Except Fault RunResult := .ok ⟨defaultCollector.call.command, 9, "", ""⟩
  have hreplies : defaultCollector.replies (.printing 9 "")
      { Site.initial () with
        records := (Site.initial ()).records ++ defaultCollector.openingRecords }
      [.scrape, .collect .patient] = [reply, reply] := rfl
  have hcount := hhistory.failedScrapes
  rw [hreplies] at hcount
  exact ⟨hhistory, hcount⟩

end Collector

end GpuMetrics
