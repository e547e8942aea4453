import GpuMetrics.Proofs.Routing
import GpuMetrics.Service.Events

/-!
# The course of a service

What becomes of a service follows from the events that happen to it and from the replies to the runs
of the tool that they lead to. `Service.Leads` says how: each reply was to one call, the failed
scrapes are counted, the service was told of each exit code other than zero if its settings say so,
and a stop has been requested if a signal came or a reply led to one. One event leads on from any
site (`Service.leads_of_event`), since an event that asks for the metrics does what a scrape does
and every other one leaves the tool alone, and so do events one after the other
(`Service.leads_of_events`). When a stop has been requested no event leads to a run any more
(`Service.leads_of_stopped`).
-/

namespace GpuMetrics

/-! ## Collections that are taken as a whole -/

namespace Collector

open Session

variable {σ : Type} (c : Collector) (runner : Runner σ) {site : Site σ}

/-- A reader that takes whatever there is requests no stop, so that handing out only logs. -/
theorem logsOnly_emit (failed : Bool) (n : Nat) (families : List Metric.Family) :
    (c.emit failed .patient n families : Session σ (List Metric.Family)).LogsOnly := by
  induction families generalizing n with
  | nil => exact keeps_pure _
  | cons f left ih =>
    refine keeps_bind (c.logsOnly_isOver failed) fun _ => keeps_ite (keeps_pure _) ?_
    simp only [Reader.patient, Bool.false_eq_true, if_false]
    exact keeps_bind (ih (n + 1)) fun _ => keeps_pure _

/-- After a stop request a collection only logs. -/
theorem collect_of_stopped (h : site.stopped = true) :
    ((c.collect runner).on site).2.unlogged = site.unlogged := by
  rw [collect, collectFor, Session.on_bind_ok _ (c.begin_of_stopped runner site h)]
  rfl

/-- Before any stop request a collection does what its scrape does, but for the log. -/
theorem collect_of_going (h : site.stopped = false) :
    ((c.collect runner).on site).2.unlogged = ((c.scrape runner).on site).2.unlogged := by
  rw [collect, collectFor, c.begin_bind runner site h]
  exact view_bind _ (fun y : Yield => c.logsOnly_emit y.failed 0 y.families) site

end Collector

/-! ## Replies -/

/-- Whether a reply tells of a run that ended with an exit code other than zero. -/
def Reply.exits (reply : Reply) : Bool :=
  match reply.outcome with
  | .ok result => result.exitCode ≠ 0
  | .error _ => false

/-- The listener has something to be told exactly of a reply that tells of such a run. -/
theorem Collector.isSome_exitFailure? (c : Collector) (reply : Reply) :
    (c.exitFailure? reply.outcome).isSome = reply.exits := by
  unfold exitFailure? Reply.exits
  cases reply.outcome with
  | error e => rfl
  | ok result => by_cases hcode : result.exitCode = 0 <;> simp [hcode]

namespace Service

variable {σ : Type}

/-! ## Events -/

/-- Whether an event is a signal. -/
def Event.isSignal : Event σ → Bool
  | .signal _ => true
  | _ => false

variable (s : Service) (runner : Runner σ)

/-- Whether an event asks for the metrics: it is a pull, or a request for their path. -/
def pulls : Event σ → Bool
  | .pull => true
  | .request line => (s.server runner).isAsked line
  | _ => false

/-- The site after an event. -/
def after (site : Site σ) (e : Event σ) : Site σ := ((s.answer runner e).on site).2

/-- The site after some events. -/
def course (site : Site σ) (events : List (Event σ)) : Site σ := events.foldl (s.after runner) site

/-- The reply to the run that an event leads to. It leads to one if it asks for the metrics and no
stop has been requested. -/
def replyTo (site : Site σ) (e : Event σ) : List Reply :=
  if s.pulls runner e && !site.stopped then [(runner s.collector.call site.surroundings).1] else []

/-- The replies to the runs that some events lead to. -/
def replies (site : Site σ) : List (Event σ) → List Reply
  | [] => []
  | e :: rest => s.replyTo runner site e ++ replies (s.after runner site e) rest

/-- Whether a reply leads to a stop: one was requested during the run, or the run is told to the
listener. -/
def stops (reply : Reply) : Bool :=
  reply.requestsStop || (s.settings.collector.shutdownOnError && reply.exits)

/-! ## What comes of replies -/

/-- A service whose collector tells the service itself of failed runs, if the settings say so. -/
def Wired : Prop :=
  s.collector.listener = if s.settings.collector.shutdownOnError then some listener else none

/-- A site that events with these replies lead to. -/
structure Leads (start : Site σ) (events : List (Event σ)) (replies : List Reply)
    (site : Site σ) : Prop where
  /-- Each reply was to one call. -/
  calls : site.calls = start.calls ++ List.replicate replies.length s.collector.call
  /-- The failed scrapes are counted. -/
  failedScrapes : site.health.failedScrapes =
    start.health.failedScrapes + replies.countP fun reply => s.collector.fails reply.outcome
  /-- The service was told of each exit code other than zero, if its settings say so. -/
  notices : site.notices = start.notices ++
    if s.settings.collector.shutdownOnError then
      replies.filterMap fun reply => s.collector.exitFailure? reply.outcome
    else []
  /-- A stop was requested by a signal or with a reply, if not before. -/
  stopped : site.stopped = (start.stopped || events.any Event.isSignal || replies.any s.stops)

variable {s runner}

/-- Without events a site stays as it is. -/
theorem Leads.refl (site : Site σ) : s.Leads site [] [] site where
  calls := by simp
  failedScrapes := by simp
  notices := by simp
  stopped := by simp

/-- Events lead on from where others have led. -/
theorem Leads.trans {start middle site : Site σ} {before rest : List (Event σ)}
    {first second : List Reply} (h : s.Leads start before first middle)
    (h' : s.Leads middle rest second site) :
    s.Leads start (before ++ rest) (first ++ second) site where
  calls := by
    rw [h'.calls, h.calls, List.append_assoc, List.replicate_append_replicate, List.length_append]
  failedScrapes := by
    rw [h'.failedScrapes, h.failedScrapes, List.countP_append, Nat.add_assoc]
  notices := by
    rw [h'.notices, h.notices, List.append_assoc]
    cases s.settings.collector.shutdownOnError <;> simp
  stopped := by
    rw [h'.stopped, h.stopped, List.any_append, List.any_append]
    cases start.stopped <;> cases before.any Event.isSignal <;> cases rest.any Event.isSignal <;>
      simp

/-- What events lead to does not depend on the log. -/
theorem Leads.of_unlogged {start site site' : Site σ} {events : List (Event σ)}
    {replies : List Reply} (h : s.Leads start events replies site)
    (hsite : site'.unlogged = site.unlogged) : s.Leads start events replies site' where
  calls := (congrArg Site.calls hsite).trans h.calls
  failedScrapes := (congrArg (·.health.failedScrapes) hsite).trans h.failedScrapes
  notices := (congrArg Site.notices hsite).trans h.notices
  stopped := (congrArg Site.stopped hsite).trans h.stopped

/-! ## One event -/

/-- What is told to a service requests a stop, and nothing is told unless its settings say so. -/
theorem Wired.reaction?_eq (hwired : s.Wired) (f : RunFailure) :
    s.collector.reaction? f =
      if f.cause.isExit && s.settings.collector.shutdownOnError then some (listener f)
      else none := by
  unfold Collector.reaction?
  rw [hwired]
  cases f.cause.isExit <;> cases s.settings.collector.shutdownOnError <;> rfl

/-- A scrape leads to a site with the reply to its only call. -/
theorem leads_of_scrape (hwired : s.Wired) (hrunner : runner.ReportsNoExit) (site : Site σ) :
    s.Leads site [] [(runner s.collector.call site.surroundings).1]
      ((s.collector.scrape runner).on site).2 := by
  generalize hreply : (runner s.collector.call site.surroundings).1 = reply
  have hexits : reply.exits = (s.collector.exitFailure? reply.outcome).isSome :=
    (s.collector.isSome_exitFailure? reply).symm
  have hstops : s.stops reply =
      (reply.requestsStop || (s.settings.collector.shutdownOnError && reply.exits)) := rfl
  have hcases := s.collector.finding_of_reportsNoExit hrunner s.collector.call site.surroundings
  rw [hreply] at hcases
  rcases hcases with ⟨t, hfinding, hfails, hexit⟩ | ⟨f, hfinding, hfails, hexit⟩
  -- A table is told to nobody; a failure is told if it ended by its exit code.
  · rw [Collector.scrape_of_table _ runner site (hreply ▸ hfinding)]
    rw [hexit] at hexits
    refine ⟨?_, ?_, ?_, ?_⟩
    · simp [Collector.queried, Site.called]
    · simp [hfails]
    · simp [Collector.queried, Site.called, hexit]
    · simp [Collector.queried, Site.called, hreply, hstops, hexits]
  · rw [Collector.scrape_of_failure _ runner site (hreply ▸ hfinding)]
    rw [hexit] at hexits
    refine ⟨?_, ?_, ?_, ?_⟩
    · simp [Collector.failed, Collector.queried, Site.called]
    · simp [Collector.failed, Collector.queried, Site.called, hfails]
    · simp only [Collector.failed, Collector.queried, Site.called, hwired.reaction?_eq]
      cases s.settings.collector.shutdownOnError <;> cases hcause : f.cause.isExit <;>
        simp [hexit, hcause]
    · simp only [Collector.failed, Collector.queried, Site.called, hwired.reaction?_eq, hreply]
      cases hshutdown : s.settings.collector.shutdownOnError <;>
        cases hcause : f.cause.isExit <;>
        simp [hstops, hexits, hcause, hshutdown, listener]

/-- A pull leads to a site with the reply to its call, if no stop has been requested before. -/
theorem leads_of_pull (hwired : s.Wired) (hrunner : runner.ReportsNoExit) (site : Site σ) :
    s.Leads site []
      (if site.stopped then [] else [(runner s.collector.call site.surroundings).1])
      ((s.pull runner).on site).2 := by
  cases hstopped : site.stopped with
  | true => exact (Leads.refl site).of_unlogged (s.collector.collect_of_stopped runner hstopped)
  | false =>
    exact (leads_of_scrape hwired hrunner site).of_unlogged
      (s.collector.collect_of_going runner hstopped)

/-- The site after an event is the one that what it asks for has left. -/
theorem after_eq (s : Service) (runner : Runner σ) (site : Site σ) (e : Event σ) :
    s.after runner site e = ((s.handle runner e).on site).2 := by
  rw [after, answer, Session.on_bind, Session.on_attempt]
  cases ((s.handle runner e).on site).1 <;> rfl

/-- But for the log, a request that comes in does what its answer does. -/
theorem after_request (s : Service) (runner : Runner σ) (line : String) (site : Site σ) :
    (s.after runner site (.request line)).unlogged =
      (((s.server runner).answer line).on site).2.unlogged := by
  rw [after_eq]
  exact Session.view_bind ((s.server runner).answer line) (fun _ => Session.keeps_pure _) site

/-- But for the log, an event that asks for the metrics does what a pull does. -/
theorem after_of_pulls {e : Event σ} (h : s.pulls runner e = true) (site : Site σ) :
    (s.after runner site e).unlogged = ((s.pull runner).on site).2.unlogged := by
  cases e with
  | pull =>
    rw [after_eq]
    exact Session.view_bind (s.pull runner) (fun _ => Session.keeps_pure _) site
  | request line =>
    have hasked : (s.server runner).isAsked line = true := h
    rw [after_request, Web.Server.answer_unlogged, hasked, if_pos rfl]
    -- The page is written from the families once they have been pulled.
    exact Session.view_bind (s.pull runner) (fun _ => Session.keeps_pure _) site
  | signal g => cases h
  | turn change => cases h

/-- A request that does not ask for the metrics only logs. -/
theorem after_of_not_asked {line : String} (h : (s.server runner).isAsked line = false)
    (site : Site σ) : (s.after runner site (.request line)).unlogged = site.unlogged := by
  rw [after_request, Web.Server.answer_unlogged, h, if_neg Bool.false_ne_true]

/-- Events that are no signals do not stop the service themselves. -/
theorem Leads.of_event {e : Event σ} (he : e.isSignal = false) {start site : Site σ}
    {replies : List Reply} (h : s.Leads start [] replies site) :
    s.Leads start [e] replies site where
  calls := h.calls
  failedScrapes := h.failedScrapes
  notices := h.notices
  stopped := by
    rw [h.stopped, List.any_cons, he]
    rfl

/-- A signal leads to a stop. -/
theorem leads_of_signal (g : Signal) (site : Site σ) :
    s.Leads site [.signal g] [] (s.after runner site (.signal g)) := by
  have hafter : s.after runner site (.signal g) = { site with
      stopped := true
      records := site.records ++ [.plain channel .info
        ("Received " ++ g.name ++ ", initiating graceful shutdown...")] } := rfl
  rw [hafter]
  refine ⟨?_, ?_, ?_, ?_⟩
  · simp
  · simp
  · simp
  · simp [Event.isSignal]

/-- A change of the surroundings leads to nothing else. -/
theorem leads_of_turn (change : σ → σ) (site : Site σ) :
    s.Leads site [.turn change] [] (s.after runner site (.turn change)) := by
  have hafter : s.after runner site (.turn change) =
      { site with surroundings := change site.surroundings } := rfl
  rw [hafter]
  refine ⟨?_, ?_, ?_, ?_⟩
  · simp
  · simp
  · simp
  · simp [Event.isSignal]

/-- An event leads to a site with the reply to its run, if it leads to one. -/
theorem leads_of_event (hwired : s.Wired) (hrunner : runner.ReportsNoExit) (site : Site σ)
    (e : Event σ) : s.Leads site [e] (s.replyTo runner site e) (s.after runner site e) := by
  -- Only an event that leads to a pull runs the tool.
  cases hpulls : s.pulls runner e with
  | true =>
    have he : e.isSignal = false := by
      cases e with
      | signal g => cases hpulls
      | _ => rfl
    have hreplies : s.replyTo runner site e =
        if site.stopped then [] else [(runner s.collector.call site.surroundings).1] := by
      rw [replyTo, hpulls]
      cases site.stopped <;> rfl
    rw [hreplies]
    exact ((leads_of_pull hwired hrunner site).of_unlogged (after_of_pulls hpulls site)).of_event he
  | false =>
    have hreplies : s.replyTo runner site e = [] := by
      rw [replyTo, hpulls]
      rfl
    rw [hreplies]
    cases e with
    | pull => cases hpulls
    | request line =>
      exact ((Leads.refl site).of_unlogged (after_of_not_asked hpulls site)).of_event rfl
    | signal g => exact leads_of_signal g site
    | turn change => exact leads_of_turn change site

/-- Events lead to a site with the replies to their runs. -/
theorem leads_of_events (hwired : s.Wired) (hrunner : runner.ReportsNoExit) (site : Site σ)
    (events : List (Event σ)) :
    s.Leads site events (s.replies runner site events) (s.course runner site events) := by
  induction events generalizing site with
  | nil => exact .refl site
  | cons e rest ih => exact (leads_of_event hwired hrunner site e).trans (ih _)

/-! ## After a stop -/

/-- When a stop has been requested, no event leads to a run any more. -/
theorem replies_of_stopped (hwired : s.Wired) (hrunner : runner.ReportsNoExit) {site : Site σ}
    (h : site.stopped = true) (events : List (Event σ)) : s.replies runner site events = [] := by
  induction events generalizing site with
  | nil => rfl
  | cons e rest ih =>
    have hreply : s.replyTo runner site e = [] := by
      rw [replyTo, h, Bool.not_true, Bool.and_false]
      rfl
    have hafter : (s.after runner site e).stopped = true := by
      rw [(leads_of_event hwired hrunner site e).stopped, h]
      rfl
    rw [replies, hreply, ih hafter]
    rfl

/-- When a stop has been requested, events neither run the tool nor change the number of failed
scrapes. -/
theorem leads_of_stopped (hwired : s.Wired) (hrunner : runner.ReportsNoExit) {site : Site σ}
    (h : site.stopped = true) (events : List (Event σ)) :
    (s.course runner site events).calls = site.calls ∧
      (s.course runner site events).health.failedScrapes = site.health.failedScrapes := by
  have hleads := leads_of_events hwired hrunner site events
  rw [replies_of_stopped hwired hrunner h] at hleads
  exact ⟨by simpa using hleads.calls, by simpa using hleads.failedScrapes⟩

end Service

end GpuMetrics
