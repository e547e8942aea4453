import GpuMetrics.Proofs.Course

/-!
# How a service ends

A run of a service whose address can be bound is the course of the events that are answered in it:
those that it hears of while it waits, and those that are late (`Service.runWith_on`). It has failed
if the service was told of a failed run by then, and since nothing is told while a service is built
(`Service.keeps_build`), that depends on the replies to the pulls alone. So the exit code says
whether the service shuts down on errors and the tool ended some run with an error; signals,
failures of other kinds and what happened before the run make no difference to it
(`Service.ends_of_build`).

If the address cannot be bound nothing happens to the service, and its run has no exit code but ends
in the trouble that the network raises (`Service.runWith_of_unbound`).
-/

namespace GpuMetrics.Service

variable {σ : Type}

/-! ## Building -/

/-- Names are claimed without a change to what scrapes have left behind. -/
theorem keeps_claim (c : Collector) (registry : Metric.Registry) :
    (claim c registry : Session σ Metric.Registry).Keeps Site.results := by
  have hdescribe : (c.describe : Session σ (List Metric.Family)).Keeps Site.results := by
    intro site
    calc ((c.describe).on site).2.results
        = ((c.describe).on site).2.quieted.results := (Site.results_quieted _).symm
      _ = site.quieted.results := congrArg Site.results (c.quiet_describe site)
      _ = site.results := Site.results_quieted site
  refine Session.keeps_bind hdescribe fun families => ?_
  cases registry.register families with
  | ok r => exact Session.keeps_pure _
  | error names => exact Session.keeps_throw _

/-- A service is built without a change to what scrapes have left behind. -/
theorem keeps_build (settings : Settings) (rule : Metric.NameRule) (maker : Runner σ) :
    (build settings rule maker).Keeps Site.results := by
  refine Session.keeps_bind (Session.keeps_change fun _ => rfl) fun _ => ?_
  refine Session.keeps_bind (Collector.keeps_results_build _ _ _ _ _ _) fun c => ?_
  exact Session.keeps_bind (keeps_claim c .empty) fun _ => Session.keeps_pure _

/-- A service that was built has the settings that it was built from, and is told of failed runs if
they say so. -/
theorem build_eq_ok {settings : Settings} {rule : Metric.NameRule} {maker : Runner σ}
    {made : Site σ} {s : Service} (h : ((build settings rule maker).on made).1 = .ok s) :
    s.settings = settings ∧ s.Wired := by
  obtain ⟨-, -, h⟩ := (Session.on_bind_eq_ok_iff _).mp h
  obtain ⟨c, hc, h⟩ := (Session.on_bind_eq_ok_iff _).mp h
  obtain ⟨registry, -, h⟩ := (Session.on_bind_eq_ok_iff _).mp h
  obtain ⟨smi, mapping, -, rfl, -⟩ := Collector.build_eq_ok hc
  cases h
  exact ⟨rfl, rfl⟩

/-! ## Waiting -/

variable (s : Service) {net : Network} (runner : Runner σ)

/-- The events that a service hears of while it waits: those before which no stop has been
requested. -/
def heard (site : Site σ) : List (Event σ) → List (Event σ)
  | [] => []
  | e :: rest => if site.stopped then [] else e :: heard (s.after runner site e) rest

/-- The answer to an event leaves the site after it, and is never a fault itself. -/
theorem answer_on (site : Site σ) (e : Event σ) :
    ∃ a, (s.answer runner e).on site = (.ok a, s.after runner site e) := by
  obtain ⟨a, ha⟩ : ∃ a, ((s.answer runner e).on site).1 = .ok a := by
    rw [answer, Session.on_bind, Session.on_attempt]
    cases ((s.handle runner e).on site).1 with
    | ok a => exact ⟨a, rfl⟩
    | error fault => exact ⟨.fault fault, rfl⟩
  exact ⟨a, Prod.ext ha rfl⟩

/-- All events are answered one after the other. -/
theorem answerAll_on (site : Site σ) (events : List (Event σ)) :
    ∃ answers, (s.answerAll runner events).on site =
      (.ok answers, s.course runner site events) := by
  induction events generalizing site with
  | nil => exact ⟨[], rfl⟩
  | cons e rest ih =>
    obtain ⟨a, ha⟩ := s.answer_on runner site e
    obtain ⟨answers, hrest⟩ := ih (s.after runner site e)
    refine ⟨a :: answers, ?_⟩
    rw [answerAll, Session.on_bind_ok _ ha, Session.on_bind_ok _ hrest, Session.on_pure]
    rfl

/-- While a service waits, the events that it hears of are answered one after the other. -/
theorem await_on (site : Site σ) (events : List (Event σ)) :
    ∃ answers, (s.await runner events).on site =
      (.ok answers, s.course runner site (s.heard runner site events)) := by
  induction events generalizing site with
  | nil => exact ⟨[], rfl⟩
  | cons e rest ih =>
    rw [await, Session.on_bind_ok _ (Session.on_isStopped _), heard]
    cases hstopped : site.stopped with
    | true => exact ⟨[], rfl⟩
    | false =>
      obtain ⟨a, ha⟩ := s.answer_on runner site e
      obtain ⟨answers, hrest⟩ := ih (s.after runner site e)
      refine ⟨a :: answers, ?_⟩
      simp only [Bool.false_eq_true, if_false]
      rw [Session.on_bind_ok _ ha, Session.on_bind_ok _ hrest, Session.on_pure]
      rfl

/-! ## The end of a run -/

/-- The site of a service that has begun to listen. -/
def listening (site : Site σ) : Site σ :=
  { site with records := site.records ++ [.plain channel .info
    ("Listening on " ++ s.settings.web.listenAddress.outline ++ ", metrics at "
      ++ s.settings.web.telemetryPath.outline)] }

/-- The events that are answered in a run from a site on: those that the service hears of while it
waits, and the late ones. -/
def answered (site : Site σ) (events late : List (Event σ)) : List (Event σ) :=
  s.heard runner (s.listening site) (events ++ [.signal .terminate]) ++ late

/-- A service whose settings have an address binds it if the network lets it. -/
theorem bound_of_address {address : Address} (h : s.settings.address = .ok address) :
    s.bound net = (net address).map fun _ => address := by
  rw [bound, h]

/-- A run whose address cannot be bound ends in the trouble before anything happens. -/
theorem runWith_of_unbound {t : Trouble} (h : s.bound net = .error t) (site : Site σ)
    (events late : List (Event σ)) :
    (s.runWith net runner events late).on site = (.error (.trouble t), site) := by
  have hserver : (s.startServer net).on site = (.error (.trouble t), site) := by
    rw [startServer, h]
    rfl
  rw [runWith, Session.on_bind_error _ hserver]

/-- A run whose address can be bound comes to its end, and leaves the site that the events answered
in it lead to. It has failed exactly if the service was told of a failed run by then. -/
theorem runWith_on {address : Address} (hbound : s.bound net = .ok address) (site : Site σ)
    (events late : List (Event σ)) :
    let last := s.course runner (s.listening site) (s.answered runner site events late)
    ∃ run, ((s.runWith net runner events late).on site).1 = .ok run ∧
      run.failed = !last.notices.isEmpty ∧
      ((s.runWith net runner events late).on site).2.unlogged = last.unlogged := by
  intro last
  have hserver : (s.startServer net).on site =
      (.ok [.bind address, .thread "metrics-http" true, .serve], site) := by
    rw [startServer, hbound]
    rfl
  obtain ⟨answers, hwait⟩ :=
    s.await_on runner (s.listening site) (events ++ [.signal .terminate])
  obtain ⟨lateAnswers, hlate⟩ := s.answerAll_on runner
    (s.course runner (s.listening site) (s.heard runner (s.listening site)
      (events ++ [.signal .terminate]))) late
  -- The late events go on from where the wait ended, so the run is one course.
  have hlast : s.course runner (s.course runner (s.listening site)
      (s.heard runner (s.listening site) (events ++ [.signal .terminate]))) late = last :=
    List.foldl_append.symm
  rw [hlast] at hlate
  have hlisten : (Session.note channel .info ("Listening on " ++
      s.settings.web.listenAddress.outline ++ ", metrics at " ++
      s.settings.web.telemetryPath.outline) : Session σ Unit).on site =
        (.ok (), s.listening site) := rfl
  rw [runWith, Session.on_bind_ok _ hserver, Session.on_bind_ok _ hlisten,
    Session.on_bind_ok _ hwait, Session.on_bind_ok _ hlate,
    Session.on_bind_ok _ (Session.on_note _ _ _ _), Session.on_bind_ok _ (Session.on_look _ _),
    Session.on_pure]
  exact ⟨_, rfl, rfl, rfl⟩

variable (net) in
/-- What a run that starts from a site comes to, and that it is over for the tool when a stop has
been requested. -/
structure Ends (start : Site σ) (events late : List (Event σ)) : Prop where
  /-- If its address can be bound the run comes to its end. Its exit code is one if the service
  shuts down on errors and some run of the tool ended with an exit code other than zero, and else it
  is zero. -/
  exitCode : ∀ address, s.bound net = .ok address →
    ∃ run, ((s.runWith net runner events late).on start).1 = .ok run ∧
      run.exitCode =
        if s.settings.collector.shutdownOnError &&
          (s.replies runner (s.listening start) (s.answered runner start events late)).any
            Reply.exits
        then 1 else 0
  /-- But for the log, the run leaves then what the events that are answered in it lead to. -/
  site : ∀ address, s.bound net = .ok address →
    ((s.runWith net runner events late).on start).2.unlogged =
      (s.course runner (s.listening start) (s.answered runner start events late)).unlogged
  /-- If its address cannot be bound the run does nothing, and ends in the trouble instead of an
  exit code. -/
  unbound : ∀ t, s.bound net = .error t →
    (s.runWith net runner events late).on start = (.error (.trouble t), start)
  /-- The replies to any events are those to all calls. -/
  calls : ∀ all, (s.course runner (s.listening start) all).calls = start.calls ++
    List.replicate (s.replies runner (s.listening start) all).length s.collector.call
  /-- After a signal, and after a reply that leads to a stop, further events neither run the tool
  nor change the number of failed scrapes. -/
  stop : ∀ before rest, (before.any Event.isSignal ||
      (s.replies runner (s.listening start) before).any s.stops) = true →
    (s.course runner (s.listening start) (before ++ rest)).calls =
        (s.course runner (s.listening start) before).calls ∧
      (s.course runner (s.listening start) (before ++ rest)).health.failedScrapes =
        (s.course runner (s.listening start) before).health.failedScrapes

variable {s runner}

/-- There is something to be told exactly if some reply tells of a run that ended with an exit code
other than zero. -/
theorem isEmpty_filterMap_exitFailure? (c : Collector) (replies : List Reply) :
    (!(replies.filterMap fun reply => c.exitFailure? reply.outcome).isEmpty) =
      replies.any Reply.exits := by
  induction replies with
  | nil => rfl
  | cons reply rest ih =>
    rw [List.any_cons, ← c.isSome_exitFailure? reply, ← ih]
    cases hexit : c.exitFailure? reply.outcome with
    | none => simp [hexit]
    | some f => simp [hexit]

/-- A service that was built, through a runner that reports no exit, ends every run as it should,
whatever the network lets it bind, whatever happens to it and whatever the runs that built it came
to. -/
theorem ends_of_build {settings : Settings} {rule : Metric.NameRule} {maker : Runner σ}
    {made start : Site σ} (hmade : made.notices = [])
    (hbuild : (build settings rule maker).on made = (.ok s, start))
    (hrunner : runner.ReportsNoExit) (net : Network) (events late : List (Event σ)) :
    s.Ends net runner start events late := by
  have hwired : s.Wired := (build_eq_ok (congrArg Prod.fst hbuild)).2
  have hstart : start.notices = [] := by
    have hkeeps : start.results = made.results := by
      have hresults := keeps_build settings rule maker made
      rwa [hbuild] at hresults
    exact (congrArg Prod.snd hkeeps).trans hmade
  have hleads (all : List (Event σ)) : s.Leads (s.listening start) all
      (s.replies runner (s.listening start) all) (s.course runner (s.listening start) all) :=
    leads_of_events hwired hrunner (s.listening start) all
  refine ⟨fun address hbound => ?_, fun address hbound => ?_,
    fun t hunbound => s.runWith_of_unbound runner hunbound start events late,
    fun all => (hleads all).calls, fun before rest hstop => ?_⟩
  -- The service has failed if it was told of something, which is if some reply was such.
  · obtain ⟨run, hrun, hfailed, -⟩ := s.runWith_on runner hbound start events late
    refine ⟨run, hrun, ?_⟩
    have hnotices := (hleads (s.answered runner start events late)).notices
    rw [show (s.listening start).notices = [] from hstart, List.nil_append] at hnotices
    rw [Run.exitCode, hfailed, hnotices]
    cases hshutdown : s.settings.collector.shutdownOnError with
    | true =>
      simp only [if_true, Bool.true_and, isEmpty_filterMap_exitFailure?]
    | false => rfl
  · obtain ⟨-, -, -, hsite⟩ := s.runWith_on runner hbound start events late
    exact hsite
  -- What comes after a stop starts from a site that is stopped.
  · have hstopped : (s.course runner (s.listening start) before).stopped = true := by
      rw [(hleads before).stopped, Bool.or_assoc, hstop, Bool.or_true]
    have hcourse : s.course runner (s.listening start) (before ++ rest) =
        s.course runner (s.course runner (s.listening start) before) rest := List.foldl_append
    rw [hcourse]
    exact leads_of_stopped hwired hrunner hstopped rest

/-! ## A service whose tool fails -/

/-- Settings of a service that shuts down on errors. -/
def strictSettings : Settings :=
  { collector := { queryFieldNames := "uuid", shutdownOnError := true } }

/-- What comes of building a service with these settings, if every run of the tool fails. -/
def strictBuild : Except Fault Service × Site Unit :=
  (build strictSettings .anyName (.printing 9 "")).on (Site.initial ())

/-- What is raised if the port of an address is taken. -/
def portTaken : Trouble := ⟨.system, "[Errno 98] Address already in use"⟩

/-- If every run of the tool fails, a service that shuts down on errors is built nevertheless, and
ends with an error after one pull, or in the trouble of the network if its port is taken. -/
theorem ends_failing_tool :
    ∃ s start, strictBuild = (.ok s, start) ∧
      (∀ net, s.Ends net (.printing 9 "") start [.pull] [.pull]) ∧
      (∃ run, ((s.runWith .willing (.printing 9 "") [.pull] [.pull]).on start).1 = .ok run ∧
        run.exitCode = 1) ∧
      (s.runWith (fun _ => .error portTaken) (.printing 9 "") [.pull] [.pull]).on start =
        (.error (.trouble portTaken), start) := by
  have hbuilt : strictBuild.1.isOk = true := by decide +kernel
  have hgoing : strictBuild.2.stopped = false := by decide +kernel
  have hrunner : (Runner.printing 9 "").ReportsNoExit := by
    intro call s e h
    cases h
  cases hbuild : strictBuild with
  | mk result start =>
    rw [hbuild] at hbuilt hgoing
    cases result with
    | error e => cases hbuilt
    | ok s =>
      have hends (net : Network) : s.Ends net (.printing 9 "") start [.pull] [.pull] :=
        ends_of_build rfl hbuild hrunner net [.pull] [.pull]
      have hsettings : s.settings = strictSettings :=
        (build_eq_ok (congrArg Prod.fst hbuild)).1
      have haddress : s.settings.address = .ok ⟨"", 9835⟩ := by
        rw [hsettings]
        decide +kernel
      obtain ⟨run, hrun, hcode⟩ :=
        (hends .willing).exitCode ⟨"", 9835⟩ (s.bound_of_address haddress)
      -- The first pull is heard, since no stop has been requested, and its run fails.
      have hexits : (s.replies (.printing 9 "") (s.listening start)
          (s.answered (.printing 9 "") start [.pull] [.pull])).any Reply.exits = true := by
        have hlistening : (s.listening start).stopped = false := hgoing
        simp only [answered, List.cons_append, heard, hlistening, Bool.false_eq_true, if_false,
          replies, replyTo, pulls, Bool.not_false, Bool.and_true, if_true, List.any_cons]
        rfl
      rw [hexits, hsettings] at hcode
      exact ⟨s, start, rfl, hends, ⟨run, hrun, hcode⟩,
        (hends _).unbound portTaken (s.bound_of_address haddress)⟩

end GpuMetrics.Service
