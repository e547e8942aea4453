import GpuMetrics.Command.Simulation
import GpuMetrics.Proofs.Health

/-!
# Processes that cannot be started

When the process of a run cannot be started, trouble of the operating system becomes a failed run
with an unknown exit code, and any other trouble is passed on as it is (`startOutcome_of_isSystem`,
`startOutcome_of_other`). A collection reports the first as a failed scrape. The second leaves the
collection as a fault, with the state of a scrape that is still going on and no failure counted
(`collect_of_cannotStart`).
-/

namespace GpuMetrics

/-! ## The two kinds of trouble -/

/-- Whether trouble is trouble of the operating system. -/
def Trouble.isSystem (t : Trouble) : Bool :=
  match t.kind with
  | .fileNotFound | .permission | .notADirectory | .system => true
  | .value | .runtime | .key | .wrongType | .overflow => false

/-- Trouble of the operating system at the start is a failed run without a known exit code. -/
theorem startOutcome_of_isSystem (command : List String) {t : Trouble} (h : t.isSystem = true) :
    ∃ f, startOutcome command t = .run f ∧ f.exitCode = -1 ∧ f.cause.isExit = false := by
  obtain ⟨kind, text⟩ := t
  cases kind with
  | fileNotFound => exact ⟨_, rfl, rfl, rfl⟩
  | permission => exact ⟨_, rfl, rfl, rfl⟩
  | notADirectory => exact ⟨_, rfl, rfl, rfl⟩
  | system => exact ⟨_, rfl, rfl, rfl⟩
  | value | runtime | key | wrongType | overflow => cases h

/-- Other trouble at the start is passed on. -/
theorem startOutcome_of_other (command : List String) {t : Trouble} (h : t.isSystem = false) :
    startOutcome command t = .trouble t := by
  obtain ⟨kind, text⟩ := t
  cases kind with
  | fileNotFound | permission | notADirectory | system => cases h
  | value | runtime | key | wrongType | overflow => rfl

/-- A runner that runs commands as processes, and cannot start the one for a call. -/
def Runner.CannotStart {σ : Type} (runner : Runner σ) (call : Invocation) (s : σ) (t : Trouble) :
    Prop :=
  ∃ canStop stopsAt start,
    (runSimulated call.command call.timeout canStop stopsAt start (.refuses t)).outcome =
      some (runner call s).1.outcome

/-- What such a runner replies. -/
theorem Runner.CannotStart.outcome_eq {σ : Type} {runner : Runner σ} {call : Invocation} {s : σ}
    {t : Trouble} (h : runner.CannotStart call s t) :
    (runner call s).1.outcome = .error (startOutcome call.command t) := by
  obtain ⟨canStop, stopsAt, start, houtcome⟩ := h
  exact (Option.some.inj houtcome).symm

/-- A runner whose processes are never started, since their command lines hold a null character. -/
def Runner.refusing : Runner Unit := fun call s =>
  (⟨.error (startOutcome call.command ⟨.value, "embedded null byte"⟩), false⟩, s)

/-! ## Collections -/

namespace Collector

variable {σ : Type} {c : Collector} {runner : Runner σ} {site : Site σ} {t : Trouble}

/-- A collection whose process cannot be started for the operating system is a failed scrape. -/
theorem collect_of_isSystem (hstopped : site.stopped = false)
    (hstart : runner.CannotStart c.call site.surroundings t) (ht : t.isSystem = true) :
    ((c.collect runner).on site).2.health =
        ⟨.failure, -1, site.health.failedScrapes + 1⟩ ∧
      ((c.collect runner).on site).1 = granting c.rule c.failureNames
        (c.failureReport ⟨.failure, -1, site.health.failedScrapes + 1⟩) := by
  obtain ⟨f, hf, hcode, hexit⟩ := startOutcome_of_isSystem c.call.command ht
  have hfinding : c.finding (runner c.call site.surroundings).1.outcome = .failure f := by
    rw [hstart.outcome_eq, hf]
    rfl
  -- The run was never started, so it has no exit that a listener is told of.
  have hreaction : c.reaction? f = none := by
    rw [reaction?, hexit]
    rfl
  have hscrape := scrape_of_failure c runner site hfinding
  have hhealth : ((c.scrape runner).on site).2.health =
      ⟨.failure, -1, site.health.failedScrapes + 1⟩ := by
    rw [hscrape, ← hcode]
    rfl
  have hquieted := collectFor_quieted c runner site .patient
  rw [hstopped] at hquieted
  refine ⟨(congrArg Site.health hquieted).trans hhealth, ?_⟩
  refine collectFor_of_failed hstopped ?_ fun _ => rfl
  rw [map_granting, ← hhealth, hscrape, hreaction]
  rfl

/-- A collection whose process cannot be started for other trouble ends in that trouble. -/
theorem collect_of_other (hstopped : site.stopped = false)
    (hstart : runner.CannotStart c.call site.surroundings t) (ht : t.isSystem = false) :
    ((c.collect runner).on site).2.health = { site.health with state := .scraping } ∧
      ((c.collect runner).on site).1 = .error (.trouble t) := by
  have hfinding : c.finding (runner c.call site.surroundings).1.outcome = .fault (.trouble t) := by
    rw [hstart.outcome_eq, startOutcome_of_other c.call.command ht]
    rfl
  have hscrape := scrape_of_fault c runner site hfinding
  -- No family is handed out, since the scrape gives none.
  have hcollect : (c.collect runner).on site = _ :=
    (begin_bind c runner site hstopped _).trans (Session.on_bind_error site hscrape _)
  rw [hcollect]
  exact ⟨rfl, rfl⟩

/-- A collection whose process cannot be started is reported as a failed scrape if the trouble is
the operating system's, which is exactly if the run itself fails without a known exit code. Any
other trouble leaves the collection, and leaves the state as if the scrape were still going on. -/
theorem collect_of_cannotStart (hstopped : site.stopped = false)
    (hstart : runner.CannotStart c.call site.surroundings t) :
    ((∃ f, (runner c.call site.surroundings).1.outcome = .error (.run f) ∧ f.exitCode = -1) ↔
        t.isSystem = true) ∧
      (t.isSystem = true →
        ((c.collect runner).on site).2.health =
            ⟨.failure, -1, site.health.failedScrapes + 1⟩ ∧
          ((c.collect runner).on site).1 = granting c.rule c.failureNames
            (c.failureReport ⟨.failure, -1, site.health.failedScrapes + 1⟩)) ∧
      (t.isSystem = false →
        ((c.collect runner).on site).2.health = { site.health with state := .scraping } ∧
          ((c.collect runner).on site).1 = .error (.trouble t)) := by
  refine ⟨?_, collect_of_isSystem hstopped hstart, collect_of_other hstopped hstart⟩
  rw [hstart.outcome_eq]
  cases ht : t.isSystem with
  | true =>
    obtain ⟨f, hf, hcode, -⟩ := startOutcome_of_isSystem c.call.command ht
    exact iff_of_true ⟨f, congrArg _ hf, hcode⟩ rfl
  | false =>
    rw [startOutcome_of_other c.call.command ht]
    refine iff_of_false ?_ Bool.false_ne_true
    rintro ⟨f, hf, -⟩
    cases hf

/-- A collection for a command line that holds a null character is no failed scrape. -/
theorem collect_refusing :
    Runner.refusing.CannotStart defaultCollector.call () ⟨.value, "embedded null byte"⟩ ∧
      ((defaultCollector.collect .refusing).on (Site.initial ())).2.health = ⟨.scraping, -1, 0⟩ ∧
      ((defaultCollector.collect .refusing).on (Site.initial ())).1 =
        .error (.trouble ⟨.value, "embedded null byte"⟩) := by
  have hstart : Runner.refusing.CannotStart defaultCollector.call (Site.initial ()).surroundings
      ⟨.value, "embedded null byte"⟩ := ⟨false, none, 0, rfl⟩
  have hstopped : (Site.initial ()).stopped = false := rfl
  exact ⟨hstart, (collect_of_cannotStart hstopped hstart).2.2 rfl⟩

end Collector

end GpuMetrics
