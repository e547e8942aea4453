import GpuMetrics.Proofs.Offers

/-!
# What a sink receives

A collection for a sink offers what its scrape gives (`offering_delivers`), and nothing if a stop
was requested before or the scrape ends in a fault; nothing else can come of it
(`offering_cases`). So what the sink receives follows from the offers (`Delivers.pushed`), and with
free slots enough a failed scrape is received as a whole, although the failure itself may have led
to a stop request (`offering_of_freeSlots`). `Pushes` puts this together, and `collectInto_pushes`
proves it for every collector, runner and sink, and every time of a stop request.
-/

namespace GpuMetrics.Collector

variable {σ φ : Type}

/-! ## A collection as a whole -/

/-- A collection for a sink whose offers are recorded. -/
def offering (c : Collector) (runner : Runner σ) (sink : Sink φ) (tries : Nat) (start : φ) :
    Session σ (Delivery × φ × List Offer) :=
  c.collectInto runner sink.recorded tries (start, [])

/-- What the offers of a scrape come to that has left a site: the count that is given, the offers,
and the site after them. -/
structure Pushed (y : Yield) (scraped : Site σ) (n : Nat) (offers : List Offer) (t : Site σ) :
    Prop where
  /-- The sink has received a front part of the families of the scrape, each of them once and in
  their order. -/
  inOrder : received offers <+: y.families
  /-- The count is the number of families that the sink has received. -/
  counted : n = (received offers).length
  /-- A stop has been requested by the end if it was by the end of the scrape or during an offer. -/
  stops : t.stopped = (scraped.stopped || requested offers)
  /-- If families are missing, a stop was requested. -/
  missing : received offers ≠ y.families → t.stopped = true
  /-- If families of a failed scrape are missing, the last offer was refused, and a stop was
  requested by then. -/
  refused : y.failed = true → received offers ≠ y.families →
    ∃ before last, offers = before ++ [last] ∧ last.answer.accepted = false ∧
      (scraped.stopped || requested (before ++ [last])) = true

/-- What a sink receives of a collection, whatever it answers, whatever the runner replies, and
wherever a stop is requested: before the collection, during the run of the tool, by the listener, or
during an offer. -/
structure Pushes (c : Collector) (runner : Runner σ) (sink : Sink φ) (start : φ) (site : Site σ) :
    Prop where
  /-- Recording the offers changes nothing. -/
  recorded : ∀ tries, (c.collectInto runner sink tries start).on site =
    let run := (c.offering runner sink tries start).on site
    (run.1.map fun (delivery, s, _) => (delivery, s), run.2)
  /-- After a stop request nothing is offered, and but for a record the site stays as it is: the
  runner is not called. -/
  skipped : site.stopped = true → ∀ tries,
    (c.offering runner sink tries start).on site =
      (.ok (⟨0, false⟩, start, []), { site with records := site.records ++ [c.skipRecord] })
  /-- Before a stop request, a collection that comes to an end has pushed what the scrape gave. -/
  returned : site.stopped = false → ∀ tries n s offers t,
    (c.offering runner sink tries start).on site = (.ok (⟨n, false⟩, s, offers), t) →
      ∃ y, ((c.scrape runner).on site).1 = .ok y ∧
        Pushed y ((c.scrape runner).on site).2 n offers t
  /-- A failed scrape gives two families, the exit code and the number of failures. -/
  failure : ∀ y, ((c.scrape runner).on site).1 = .ok y → y.failed = true →
    y.families.length = 2 ∧ ∃ f, y.families = c.failureReport (healthAfter f site.health)
  /-- Two free slots suffice for them, even if the failure itself led to a stop request. -/
  twoSlots : site.stopped = false → ∀ y, ((c.scrape runner).on site).1 = .ok y →
    y.failed = true → FreeSlots sink 2 start → ∀ tries, ∃ s offers t,
      (c.offering runner sink (tries + 1) start).on site = (.ok (⟨2, false⟩, s, offers), t) ∧
        received offers = y.families
  /-- What a collection has come to does not change with more tries. -/
  settled : ∀ tries more n s offers t,
    (c.offering runner sink tries start).on site = (.ok (⟨n, false⟩, s, offers), t) →
      (c.offering runner sink (tries + more) start).on site = (.ok (⟨n, false⟩, s, offers), t)
  /-- A collection whose tries are used up is still waiting: the sink has refused one family as
  often, and no stop has been requested. -/
  waiting : ∀ tries n s offers t,
    (c.offering runner sink tries start).on site = (.ok (⟨n, true⟩, s, offers), t) →
      ∃ f before last, offers = before ++ last ∧ last.length = tries ∧
        (∀ o ∈ last, o.family = f ∧ o.answer.accepted = false) ∧ (0 < tries → t.stopped = false)

section Collection

variable {c : Collector} {runner : Runner σ} {sink : Sink φ} {start : φ} {site : Site σ}

/-- A scrape that gives families is followed by the offers of these. -/
theorem offering_delivers (sink : Sink φ) (start : φ) (h : site.stopped = false) {y : Yield}
    {scraped : Site σ} (hscrape : (c.scrape runner).on site = (.ok y, scraped)) (tries : Nat) :
    ∃ n stuck s offers t,
      (c.collectInto runner sink tries start).on site = (.ok (⟨n, stuck⟩, s), t) ∧
      (c.offering runner sink tries start).on site = (.ok (⟨n, stuck⟩, s, offers), t) ∧
      t.stopped = (scraped.stopped || requested offers) ∧
      Delivers y.failed tries scraped.stopped y.families n stuck offers := by
  obtain ⟨n, stuck, s, offers, t, hplain, hrecorded, hstopped, hdelivers⟩ :=
    deliver_delivers c y.failed sink tries 0 y.families start [] scraped
  rw [Nat.zero_add] at hplain hrecorded
  refine ⟨n, stuck, s, offers, t, ?_, ?_, hstopped, hdelivers⟩
  · rw [collectInto_of_going h, hscrape]
    exact hplain
  · rw [offering, collectInto_of_going h, hscrape]
    exact hrecorded

/-- After a stop request nothing is offered. -/
theorem collectInto_of_stopped (h : site.stopped = true) (tries : Nat) :
    (c.collectInto runner sink tries start).on site =
      (.ok (⟨0, false⟩, start), { site with records := site.records ++ [c.skipRecord] }) := by
  rw [collectInto, Session.on_bind_ok _ (begin_of_stopped c runner site h)]
  rfl

/-- A collection is skipped after a stop request, or it ends in the fault of its scrape, or what the
scrape gives is offered. -/
theorem offering_cases (c : Collector) (runner : Runner σ) (sink : Sink φ) (start : φ)
    (site : Site σ) (tries : Nat) :
    (site.stopped = true ∧ ∃ t,
      (c.collectInto runner sink tries start).on site = (.ok (⟨0, false⟩, start), t) ∧
      (c.offering runner sink tries start).on site = (.ok (⟨0, false⟩, start, []), t)) ∨
    (site.stopped = false ∧ ∃ e t,
      (c.collectInto runner sink tries start).on site = (.error e, t) ∧
      (c.offering runner sink tries start).on site = (.error e, t)) ∨
    site.stopped = false ∧ ∃ y scraped n stuck s offers t,
      (c.scrape runner).on site = (.ok y, scraped) ∧
      (c.collectInto runner sink tries start).on site = (.ok (⟨n, stuck⟩, s), t) ∧
      (c.offering runner sink tries start).on site = (.ok (⟨n, stuck⟩, s, offers), t) ∧
      t.stopped = (scraped.stopped || requested offers) ∧
      Delivers y.failed tries scraped.stopped y.families n stuck offers := by
  cases h : site.stopped with
  | true =>
    exact .inl ⟨rfl, _, collectInto_of_stopped h tries, collectInto_of_stopped h tries⟩
  | false =>
    rcases hscrape : (c.scrape runner).on site with ⟨e | y, scraped⟩
    · refine .inr (.inl ⟨rfl, e, scraped, ?_, ?_⟩)
      · rw [collectInto_of_going h, hscrape]
      · rw [offering, collectInto_of_going h, hscrape]
    · obtain ⟨n, stuck, s, offers, t, hrun⟩ := offering_delivers sink start h hscrape tries
      exact .inr (.inr ⟨rfl, y, scraped, n, stuck, s, offers, t, rfl, hrun⟩)

/-- A collection that ends before the tries are used up ends so with one more try. -/
theorem collectInto_succ {tries n : Nat} {s : φ} {t : Site σ}
    (h : (c.collectInto runner sink tries start).on site = (.ok (⟨n, false⟩, s), t)) :
    (c.collectInto runner sink (tries + 1) start).on site = (.ok (⟨n, false⟩, s), t) := by
  cases hstopped : site.stopped with
  | true =>
    rw [collectInto_of_stopped hstopped] at h ⊢
    exact h
  | false =>
    rw [collectInto_of_going hstopped] at h ⊢
    rcases hscrape : (c.scrape runner).on site with ⟨e | y, scraped⟩
    · rw [hscrape] at h
      cases h
    · rw [hscrape] at h
      exact deliver_succ h

/-- If a scrape fails and there are as many free slots as it has families, the sink receives all of
them. -/
theorem offering_of_freeSlots (h : site.stopped = false) {y : Yield} {scraped : Site σ}
    (hscrape : (c.scrape runner).on site = (.ok y, scraped)) (hfailed : y.failed = true)
    (hfree : FreeSlots sink y.families.length start) (tries : Nat) :
    ∃ s offers t, (c.offering runner sink (tries + 1) start).on site =
        (.ok (⟨y.families.length, false⟩, s, offers), t) ∧
      received offers = y.families := by
  obtain ⟨n, stuck, s, offers, t, hplain, hrecorded, -, hdelivers⟩ :=
    offering_delivers sink start h hscrape (tries + 1)
  have hall : ∃ s' t', (c.collectInto runner sink (tries + 1) start).on site =
      (.ok (⟨y.families.length, false⟩, s'), t') := by
    obtain ⟨s', t', hdeliver⟩ := deliver_of_freeSlots c hfree tries 0 scraped
    refine ⟨s', t', ?_⟩
    rw [collectInto_of_going h, hscrape]
    simp only [hfailed, hdeliver, Nat.zero_add]
  obtain ⟨s', t', hall⟩ := hall
  cases hplain.symm.trans hall
  obtain ⟨hfront, hcount⟩ := hdelivers.received_prefix
  exact ⟨s, offers, t, hrecorded, hfront.eq_of_length hcount.symm⟩

/-- What a delivery comes to follows from its offers. -/
theorem Delivers.pushed {y : Yield} {tries : Nat} {scraped t : Site σ} {n : Nat}
    {offers : List Offer} (h : Delivers y.failed tries scraped.stopped y.families n false offers)
    (hstopped : t.stopped = (scraped.stopped || Collector.requested offers)) :
    Pushed y scraped n offers t where
  inOrder := h.received_prefix.1
  counted := h.received_prefix.2
  stops := hstopped
  missing := fun hmissing => hstopped.trans (h.requested rfl hmissing)
  refused := fun hfailed hmissing => by
    obtain ⟨before, last, rfl, hlast⟩ := h.refused hfailed rfl hmissing
    exact ⟨before, last, rfl, hlast, h.requested rfl hmissing⟩

end Collection

/-- Every collection for a sink is as `Pushes` says. -/
theorem collectInto_pushes (c : Collector) (runner : Runner σ) (sink : Sink φ) (start : φ)
    (site : Site σ) : Pushes c runner sink start site where
  recorded := fun tries => by
    obtain ⟨-, t, hplain, hrecorded⟩ | ⟨-, e, t, hplain, hrecorded⟩ |
      ⟨-, _, _, _, _, _, _, _, -, hplain, hrecorded, -⟩ :=
        offering_cases c runner sink start site tries
    all_goals rw [hplain, hrecorded]; rfl
  skipped := fun h tries => collectInto_of_stopped h tries
  returned := fun h tries n s offers t hrun => by
    obtain ⟨hstop, -⟩ | ⟨-, _, _, -, hrecorded⟩ |
      ⟨-, y, scraped, _, _, _, _, _, hscrape, -, hrecorded, hstopped, hdelivers⟩ :=
        offering_cases c runner sink start site tries
    · rw [h] at hstop
      cases hstop
    · cases hrecorded.symm.trans hrun
    · cases hrecorded.symm.trans hrun
      rw [hscrape]
      exact ⟨y, rfl, hdelivers.pushed hstopped⟩
  failure := fun y hscrape hfailed => by
    obtain ⟨t, -, rfl, -⟩ | ⟨f, -, rfl, -⟩ := scrape_eq_ok hscrape
    · cases hfailed
    · exact ⟨rfl, f, rfl⟩
  twoSlots := fun h y hscrape hfailed hfree tries => by
    obtain ⟨_, -, rfl, -⟩ | ⟨f, -, rfl, -⟩ := scrape_eq_ok hscrape
    · cases hfailed
    · exact offering_of_freeSlots h (Prod.ext hscrape rfl) rfl hfree tries
  settled := fun tries more n s offers t hrun => by
    induction more with
    | zero => exact hrun
    | succ more ih => exact collectInto_succ ih
  waiting := fun tries n s offers t hrun => by
    obtain ⟨-, _, -, hrecorded⟩ | ⟨-, _, _, -, hrecorded⟩ |
      ⟨-, _, _, _, _, _, _, _, -, -, hrecorded, hstopped, hdelivers⟩ :=
        offering_cases c runner sink start site tries
    · cases hrecorded.symm.trans hrun
    · cases hrecorded.symm.trans hrun
    · cases hrecorded.symm.trans hrun
      obtain ⟨f, before, last, hoffers, hlength, hrefused, hgoing⟩ :=
        hdelivers.refused_of_stuck rfl
      exact ⟨f, before, last, hoffers, hlength, hrefused, fun hpos =>
        hstopped.trans (hgoing hpos)⟩

/-! ## Two slots, and one -/

/-- A collector whose listener requests a stop whenever it is told of a failed run. -/
def stoppingCollector : Collector := listeningCollector fun _ => ⟨[], true, none⟩

/-- A scrape of this collector fails if the tool exits with an error, and it leads to a stop
request. -/
theorem scrape_stoppingCollector :
    ∃ scraped, (stoppingCollector.scrape (.printing 9 "")).on (Site.initial ()) =
        (.ok ⟨stoppingCollector.failureReport ⟨.failure, 9, 1⟩, true⟩, scraped) ∧
      scraped.stopped = true := by
  have hfinding : stoppingCollector.finding
      (Runner.printing 9 "" stoppingCollector.call (Site.initial ()).surroundings).1.outcome =
        .failure (nineFailure stoppingCollector) := rfl
  have hadmits : stoppingCollector.rule.Admits stoppingCollector.stem := .inr (.inr (by decide))
  rw [scrape_of_failure _ _ _ hfinding]
  refine ⟨_, Prod.ext ?_ rfl, rfl⟩
  exact granting_fixed hadmits (fun _ hn => List.mem_append_left _ hn) _

/-- The two families of a failed scrape that leads to a stop request are pushed into a queue with
room for two. Into a queue with room for one, which nobody reads, one of them is pushed, and the
offer of the other one is the last. -/
theorem collectInto_pushes_slots :
    let queue (room : Nat) := Queue.offer ⟨some room, none, none, none⟩
    let run (room : Nat) := (stoppingCollector.offering (.printing 9 "") (queue room) 1 .empty).on
      (Site.initial ())
    FreeSlots (queue 2) 2 .empty ∧
      (∃ s offers t, run 2 = (.ok (⟨2, false⟩, s, offers), t) ∧
        received offers = stoppingCollector.failureReport ⟨.failure, 9, 1⟩) ∧
      ∃ s before last t, run 1 = (.ok (⟨1, false⟩, s, before ++ [last]), t) ∧
        last.answer.accepted = false ∧ t.stopped = true := by
  intro queue run
  obtain ⟨scraped, hscrape, hstopped⟩ := scrape_stoppingCollector
  have hpushes (room : Nat) :
      Pushes stoppingCollector (.printing 9 "") (queue room) .empty (Site.initial ()) :=
    collectInto_pushes stoppingCollector (.printing 9 "") (queue room) .empty (Site.initial ())
  have hyield := congrArg Prod.fst hscrape
  have hfree : FreeSlots (queue 2) 2 .empty := freeSlots_queue (by rintro _ ⟨⟩; decide)
  refine ⟨hfree, (hpushes 2).twoSlots rfl _ hyield rfl hfree 0, ?_⟩
  obtain ⟨s, offers, t, hrun⟩ : ∃ s offers t, run 1 = (.ok (⟨1, false⟩, s, offers), t) := by
    obtain ⟨_, _, _, _, _, _⟩ := scraped
    cases hstopped
    simp only [run]
    rw [offering, collectInto_of_going rfl, hscrape]
    exact ⟨_, _, _, rfl⟩
  obtain ⟨y, hy, hpushed⟩ := (hpushes 1).returned rfl 1 1 s offers t hrun
  cases hyield.symm.trans hy
  -- One family is not the whole of two.
  have hmissing : received offers ≠ stoppingCollector.failureReport ⟨.failure, 9, 1⟩ := by
    intro hall
    have hcounted := hpushed.counted
    rw [hall] at hcounted
    cases hcounted
  obtain ⟨before, last, rfl, hlast, -⟩ := hpushed.refused rfl hmissing
  exact ⟨s, before, last, t, hrun, hlast, hpushed.missing hmissing⟩

end GpuMetrics.Collector
