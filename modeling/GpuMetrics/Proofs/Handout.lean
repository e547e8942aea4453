import GpuMetrics.Proofs.Health

/-!
# What a reader receives

A reader that stays asks for one family after the other until there are no more, and a stop may be
requested after any of them. Of a successful scrape it receives the longest front part of the
families before whose members no stop was requested (`emit_of_success`). Of a failed scrape it
receives both families, whoever requested a stop and when, unless the scrape ends in a fault
(`collectFor_of_failed`). `HandsOut` puts this together with what comes before the first family, and
`handsOut` proves it for every collector and every runner that leaves a result or reports a failure.

A reader takes the families in one session, while a program may ask for them one at a time
(`Emission.next`), with other things done in between. `Gives` says what the asking leads to, and
`gives_iff` that it is the same.
-/

namespace GpuMetrics

/-- The site after a stop was requested, if one was. -/
def Site.stopping {σ : Type} (site : Site σ) (requested : Bool) : Site σ :=
  { site with stopped := site.stopped || requested }

/-- The longest front part of a list such that something holds at each of its places. -/
structure LongestFront {α : Type} (holds : Nat → Prop) (front all : List α) : Prop where
  /-- It is a front part. -/
  isFront : front <+: all
  /-- It holds at each of its places. -/
  holdsAt : ∀ i < front.length, holds i
  /-- Every other front part like this is shorter. -/
  longest : ∀ other, other <+: all → (∀ i < other.length, holds i) → other <+: front

namespace LongestFront

variable {α : Type} {holds : Nat → Prop} {front all : List α}

/-- The empty list has an empty front part only. -/
theorem of_nil : LongestFront holds ([] : List α) [] where
  isFront := List.prefix_refl _
  holdsAt := fun _ h => absurd h (Nat.not_lt_zero _)
  longest := fun _ h _ => h

/-- If it does not hold at the first place, only the empty front part is left. -/
theorem of_not (h : ¬ holds 0) : LongestFront holds [] all where
  isFront := List.nil_prefix
  holdsAt := fun _ h => absurd h (Nat.not_lt_zero _)
  longest := fun other _ hother => by
    cases other with
    | nil => exact List.prefix_refl _
    | cons a rest => exact absurd (hother 0 (by simp)) h

/-- If it holds at the first place, the first member belongs to the front part. -/
theorem cons (h : holds 0) (hrest : LongestFront (fun i => holds (i + 1)) front all) (a : α) :
    LongestFront holds (a :: front) (a :: all) where
  isFront := (List.prefix_cons_inj a).mpr hrest.isFront
  holdsAt := fun i hi => by
    cases i with
    | zero => exact h
    | succ i => exact hrest.holdsAt i (by simpa using hi)
  longest := fun other hfront hother => by
    cases other with
    | nil => exact List.nil_prefix
    | cons b rest =>
      obtain ⟨rfl, htail⟩ := List.cons_prefix_cons.mp hfront
      have hshorter := hrest.longest rest htail fun i hi => hother (i + 1) (by simpa using hi)
      exact (List.prefix_cons_inj b).mpr hshorter

end LongestFront

namespace Collector

/-- A reader that takes whatever there is, and requests a stop when it has received as many families
as `stops` says. -/
def Reader.staying (stops : Nat → Bool) : Reader := ⟨stops, fun _ => false⟩

/-- Whether no stop was requested just before the `i`-th of the families that are left when `n` of
them were received: neither before these, nor after one that was received since. -/
def Unstopped (stopped : Bool) (stops : Nat → Bool) (n i : Nat) : Prop :=
  stopped = false ∧ ∀ j < i, stops (n + j + 1) = false

/-- Before the family after the next no stop was requested if there was none before the next one and
none after it. -/
theorem unstopped_succ (stops : Nat → Bool) (n i : Nat) :
    Unstopped false stops n (i + 1) ↔ Unstopped (stops (n + 1)) stops (n + 1) i := by
  simp only [Unstopped, true_and]
  constructor
  · intro h
    refine ⟨h 0 (Nat.succ_pos i), fun j hj => ?_⟩
    have hnext := h (j + 1) (Nat.succ_lt_succ hj)
    rwa [← Nat.add_assoc, Nat.add_right_comm n j 1] at hnext
  · rintro ⟨hfirst, hrest⟩ j hj
    cases j with
    | zero => exact hfirst
    | succ j =>
      have hnext := hrest j (Nat.lt_of_succ_lt_succ hj)
      rwa [Nat.add_right_comm n 1 j] at hnext

variable {σ : Type} (c : Collector) (stops : Nat → Bool) (runner : Runner σ) (site : Site σ)

/-! ## One family after the other -/

/-- The record of a successful scrape whose families are not all given. -/
def abortRecord : Log.Record :=
  .plain c.channel .info "Stop requested, aborting metric emission"

/-- After a failed scrape, and before any stop request, more families are given. -/
theorem isOver_of_going {failed : Bool} (h : (!failed && site.stopped) = false) :
    (c.isOver failed).on site = (.ok false, site) := by
  unfold isOver
  cases failed with
  | true => rfl
  | false =>
    have hstopped : site.stopped = false := by simpa using h
    rw [if_neg Bool.false_ne_true, Session.on_bind_ok _ (Session.on_isStopped _), hstopped]
    rfl

/-- After a successful scrape and a stop request no more families are given. -/
theorem isOver_of_stopped (h : site.stopped = true) :
    (c.isOver false).on site =
      (.ok true, { site with records := site.records ++ [c.abortRecord] }) := by
  rw [isOver, if_neg Bool.false_ne_true, Session.on_bind_ok _ (Session.on_isStopped _), if_pos h,
    Session.on_bind_ok _ (Session.on_note _ _ _ _), Session.on_pure]
  rfl

/-- A family that is given is followed by what is given after it. -/
theorem emit_cons_of_going {failed : Bool} (h : (!failed && site.stopped) = false) (n : Nat)
    (f : Metric.Family) (left : List Metric.Family) :
    (c.emit failed (.staying stops) n (f :: left)).on site =
      let rest := (c.emit failed (.staying stops) (n + 1) left).on (site.stopping (stops (n + 1)))
      (rest.1.map (f :: ·), rest.2) := by
  have hrest (s : Site σ) : (do return f :: (← c.emit failed (.staying stops) (n + 1) left)
      : Session σ (List Metric.Family)).on s =
        let rest := (c.emit failed (.staying stops) (n + 1) left).on s
        (rest.1.map (f :: ·), rest.2) := by
    rw [Session.on_bind]
    rcases (c.emit failed (.staying stops) (n + 1) left).on s with ⟨e | fs, s'⟩ <;> rfl
  rw [emit, Session.on_bind_ok _ (isOver_of_going c site h)]
  simp only [Reader.staying, Bool.false_eq_true, if_false]
  -- Without a request the site is the same as before.
  cases hstops : stops (n + 1) with
  | true =>
    rw [if_pos rfl, Session.on_bind_ok _ (Session.on_requestStop _), Site.stopping, Bool.or_true]
    exact hrest _
  | false =>
    rw [if_neg Bool.false_ne_true, Site.stopping, Bool.or_false]
    exact hrest site

/-- After a successful scrape and a stop request nothing more is received. -/
theorem emit_cons_of_stopped (h : site.stopped = true) (n : Nat) (f : Metric.Family)
    (left : List Metric.Family) :
    (c.emit false (.staying stops) n (f :: left)).on site =
      (.ok [], { site with records := site.records ++ [c.abortRecord] }) := by
  rw [emit, Session.on_bind_ok _ (isOver_of_stopped c site h)]
  rfl

/-- Of a successful scrape the reader receives the longest front part of the families that are left
before whose members no stop was requested. -/
theorem emit_of_success (n : Nat) (left : List Metric.Family) :
    ∃ given, ((c.emit false (.staying stops) n left).on site).1 = .ok given ∧
      LongestFront (Unstopped site.stopped stops n) given left := by
  induction left generalizing n site with
  | nil => exact ⟨[], rfl, .of_nil⟩
  | cons f left ih =>
    cases hstopped : site.stopped with
    | true =>
      rw [emit_cons_of_stopped c stops site hstopped]
      exact ⟨[], rfl, .of_not fun h => Bool.noConfusion h.1⟩
    | false =>
      obtain ⟨given, hgiven, hfront⟩ := ih (site.stopping (stops (n + 1))) (n + 1)
      rw [emit_cons_of_going c stops site (by simp [hstopped])]
      refine ⟨f :: given, congrArg (Except.map (f :: ·)) hgiven,
        .cons ⟨rfl, fun j hj => absurd hj (Nat.not_lt_zero j)⟩ ?_ f⟩
      -- One place on is the place after one more family was received.
      have hplaces : (fun i => Unstopped false stops n (i + 1)) =
          Unstopped (site.stopping (stops (n + 1))).stopped stops (n + 1) := by
        funext i
        rw [Site.stopping, hstopped, Bool.false_or]
        exact propext (unstopped_succ stops n i)
      rw [hplaces]
      exact hfront

/-! ## Asking for one family at a time -/

/-- What comes of asking for one family after the other until there are no more, beginning when `n`
families were received, and the site after that. After each family a stop is requested if `stops`
says so. -/
inductive Gives : Nat → Emission → Site σ → Except Fault (List Metric.Family) → Site σ → Prop
  | /-- There is no more. -/
    ended {n : Nat} {e e' : Emission} {site s : Site σ}
      (h : (e.next c runner).on site = (.ok (none, e'), s)) : Gives n e site (.ok []) s
  | /-- The asking ends in a fault. -/
    fault {n : Nat} {e : Emission} {site s : Site σ} {f : Fault}
      (h : (e.next c runner).on site = (.error f, s)) : Gives n e site (.error f) s
  | /-- There is one more, and the asking goes on. -/
    more {n : Nat} {e e' : Emission} {site s t : Site σ} {f : Metric.Family}
      {rest : Except Fault (List Metric.Family)}
      (h : (e.next c runner).on site = (.ok (some f, e'), s))
      (hrest : Gives (n + 1) e' (s.stopping (stops (n + 1))) rest t) :
      Gives n e site (rest.map (f :: ·)) t

variable {c stops runner site}

/-- What comes of the asking is settled. -/
theorem Gives.unique {n : Nat} {e : Emission} {r r' : Except Fault (List Metric.Family)}
    {s s' : Site σ} (h : Gives c stops runner n e site r s)
    (h' : Gives c stops runner n e site r' s') : r = r' ∧ s = s' := by
  -- The next answer is settled, so both go on in the same way.
  induction h generalizing r' s' with
  | ended h =>
    cases h' with
    | ended h' =>
      cases h.symm.trans h'
      exact ⟨rfl, rfl⟩
    | fault h' => cases h.symm.trans h'
    | more h' _ => cases h.symm.trans h'
  | fault h =>
    cases h' with
    | ended h' => cases h.symm.trans h'
    | fault h' =>
      cases h.symm.trans h'
      exact ⟨rfl, rfl⟩
    | more h' _ => cases h.symm.trans h'
  | more h _ ih =>
    cases h' with
    | ended h' => cases h.symm.trans h'
    | fault h' => cases h.symm.trans h'
    | more h' hrest' =>
      cases h.symm.trans h'
      obtain ⟨rfl, rfl⟩ := ih hrest'
      exact ⟨rfl, rfl⟩

/-- What comes of the asking depends on the next answer only. -/
theorem Gives.of_next {n : Nat} {e e' : Emission} {site' t : Site σ}
    {r : Except Fault (List Metric.Family)}
    (hnext : (e'.next c runner).on site' = (e.next c runner).on site)
    (h : Gives c stops runner n e' site' r t) : Gives c stops runner n e site r t := by
  cases h with
  | ended h => exact .ended (hnext ▸ h)
  | fault h => exact .fault (hnext ▸ h)
  | more h hrest => exact .more (hnext ▸ h) hrest

/-- The asking for the families that are left gives what a reader receives of them. -/
theorem emit_gives (failed : Bool) (n : Nat) (left : List Metric.Family) (site : Site σ) :
    Gives c stops runner n (.giving left failed) site
      ((c.emit failed (.staying stops) n left).on site).1
      ((c.emit failed (.staying stops) n left).on site).2 := by
  induction left generalizing n site with
  | nil => exact .ended rfl
  | cons f left ih =>
    cases hgoing : !failed && site.stopped with
    | false =>
      rw [emit_cons_of_going c stops site hgoing]
      refine .more ?_ (ih (n + 1) _)
      rw [Emission.next, give, Session.on_bind_ok _ (isOver_of_going c site hgoing)]
      rfl
    | true =>
      obtain ⟨hfailed, hstopped⟩ := Bool.and_eq_true_iff.mp hgoing
      obtain rfl : failed = false := by simpa using hfailed
      rw [emit_cons_of_stopped c stops site hstopped]
      have hnext : ((Emission.giving (f :: left) false).next c runner).on site =
          (.ok (none, .finished), { site with records := site.records ++ [c.abortRecord] }) := by
        rw [Emission.next, give, Session.on_bind_ok _ (isOver_of_stopped c site hstopped)]
        rfl
      exact .ended hnext

/-- The asking from the start gives what a reader receives of a collection. -/
theorem collectFor_gives (site : Site σ) :
    Gives c stops runner 0 .waiting site ((c.collectFor runner (.staying stops)).on site).1
      ((c.collectFor runner (.staying stops)).on site).2 := by
  have hnext : ((Emission.waiting).next c runner).on site = match (c.begin runner).on site with
      | (.ok (some y), s) => ((Emission.giving y.families y.failed).next c runner).on s
      | (.ok none, s) => (.ok (none, .finished), s)
      | (.error e, s) => (.error e, s) := by
    rw [Emission.next, Session.on_bind]
    rcases (c.begin runner).on site with ⟨e | y, s⟩
    · rfl
    · cases y <;> rfl
  rw [collectFor, Session.on_bind]
  rcases hbegin : (c.begin runner).on site with ⟨e | y, s⟩
  · exact .fault (hnext.trans (by rw [hbegin]))
  · cases y with
    | none =>
      rw [hbegin] at hnext
      exact .ended hnext
    | some y => exact .of_next (by rw [hnext, hbegin]) (emit_gives y.failed 0 y.families s)

variable (c stops runner site)

/-- Asking for one family at a time from the start comes to what a reader receives of a
collection. -/
theorem gives_iff {r : Except Fault (List Metric.Family)} {s : Site σ} :
    Gives c stops runner 0 .waiting site r s ↔
      (c.collectFor runner (.staying stops)).on site = (r, s) := by
  constructor
  · intro h
    obtain ⟨hresult, hsite⟩ := (collectFor_gives site).unique h
    exact Prod.ext hresult hsite
  · intro h
    have hgives : Gives c stops runner 0 .waiting site
        ((c.collectFor runner (.staying stops)).on site).1
        ((c.collectFor runner (.staying stops)).on site).2 := collectFor_gives site
    rwa [h] at hgives

/-! ## A collection as a whole -/

/-- What a reader receives of a collection when it stays and a stop is requested at any time: before
the collection, during the run of the tool, by the listener, or after some families. -/
structure HandsOut : Prop where
  /-- Asking for one family at a time comes to the same. -/
  oneByOne : ∀ r s, Gives c stops runner 0 .waiting site r s ↔
    (c.collectFor runner (.staying stops)).on site = (r, s)
  /-- After a stop request there is no family, and but for a record the site stays as it is. -/
  skipped : site.stopped = true → (c.collectFor runner (.staying stops)).on site =
    (.ok [], { site with records := site.records ++ [c.skipRecord] })
  /-- Before a stop request the runner is called once. -/
  called : site.stopped = false →
    ((c.collectFor runner (.staying stops)).on site).2.calls = site.calls ++ [c.call]
  /-- The scrape succeeds with a table, or it fails. -/
  found : (∃ t, c.finding (runner c.call site.surroundings).1.outcome = .table t) ∨
    ∃ f, c.finding (runner c.call site.surroundings).1.outcome = .failure f
  /-- A successful scrape gives its families, if the names of the two fixed ones are granted, and of
  these the reader receives the longest front part before whose members no stop was requested. -/
  success : site.stopped = false →
    ∀ t, c.finding (runner c.call site.surroundings).1.outcome = .table t →
      ((c.scrape runner).on site).1 =
          granting c.rule c.successNames ⟨c.tableReport t, false⟩ ∧
        ∃ given, ((c.collectFor runner (.staying stops)).on site).1 =
            granting c.rule c.successNames given ∧
          LongestFront (Unstopped (runner c.call site.surroundings).1.requestsStop stops 0) given
            (c.tableReport t)
  /-- Of a failed scrape the reader receives the exit code and the number of failures, if their
  names are granted, whoever requested a stop and when. If the listener ends in a fault, so does the
  collection. -/
  failure : site.stopped = false →
    ∀ f, c.finding (runner c.call site.surroundings).1.outcome = .failure f →
      ((c.collectFor runner (.staying stops)).on site).1 =
        match (c.reaction? f).bind (·.fault) with
        | some e => .error e
        | none =>
          granting c.rule c.failureNames (c.failureReport (healthAfter f site.health))
  /-- All these names are granted under an admitted stem. -/
  granted : c.rule.Admits c.stem → ∀ {α : Type} (a : α),
    granting c.rule c.successNames a = .ok a ∧ granting c.rule c.failureNames a = .ok a

variable {c runner site}

/-- Of a successful scrape whose families are granted the reader receives the longest front part
before whose members no stop was requested. -/
theorem collectFor_of_success (h : site.stopped = false) {names : List String}
    {families : List Metric.Family} {s : Site σ}
    (hscrape : (c.scrape runner).on site = (granting c.rule names ⟨families, false⟩, s)) :
    ∃ given, ((c.collectFor runner (.staying stops)).on site).1 = granting c.rule names given ∧
      LongestFront (Unstopped s.stopped stops 0) given families := by
  obtain ⟨given, hgiven, hfront⟩ := emit_of_success c stops s 0 families
  refine ⟨given, ?_, hfront⟩
  rw [collectFor, begin_bind c runner site h, Session.on_bind, hscrape]
  rcases granting_cases c.rule names with hgranted | ⟨e, hrefused⟩
  · rw [hgranted, hgranted]
    exact hgiven
  · rw [hrefused, hrefused]

/-- Of a scrape that fails the reader receives both families, unless it ends in a fault. -/
theorem collectFor_of_failure (h : site.stopped = false) {f : RunFailure}
    (hfinding : c.finding (runner c.call site.surroundings).1.outcome = .failure f) :
    ((c.collectFor runner (.staying stops)).on site).1 =
      match (c.reaction? f).bind (·.fault) with
      | some e => .error e
      | none => granting c.rule c.failureNames (c.failureReport (healthAfter f site.health)) := by
  refine collectFor_of_failed h ?_ fun _ => rfl
  rw [scrape_of_failure c runner site hfinding]
  cases (c.reaction? f).bind (·.fault) with
  | some e => rfl
  | none =>
    simp only [map_granting]
    rfl

variable (c site)

/-- Through a runner that leaves a result or reports a failed run, a collection hands out what
`HandsOut` says, wherever a stop is requested. -/
theorem handsOut (hrunner : runner.Reports) : HandsOut c stops runner site where
  oneByOne := fun _ _ => gives_iff c stops runner site
  skipped := fun h => by
    rw [collectFor, Session.on_bind_ok _ (begin_of_stopped c runner site h)]
    rfl
  called := fun h => by
    have hquieted := congrArg Site.calls (c.collectFor_quieted runner site (.staying stops))
    rw [h, if_neg Bool.false_ne_true] at hquieted
    exact hquieted.trans (scrape_calls c runner site)
  found := finding_of_reports c hrunner site.surroundings
  success := fun h t hfinding => by
    have hscrape := scrape_of_table c runner site hfinding
    obtain ⟨given, hgiven, hfront⟩ := collectFor_of_success stops h hscrape
    -- Only the run of the tool can have led to a stop request by then.
    have hstopped : (site.called runner c.call).stopped =
        (runner c.call site.surroundings).1.requestsStop := by
      rw [Site.called, h, Bool.false_or]
    refine ⟨congrArg (·.1) hscrape, given, hgiven, ?_⟩
    rw [← hstopped]
    exact hfront
  failure := fun h _ hfinding => collectFor_of_failure stops h hfinding
  granted := fun hadmits {_} a =>
    ⟨granting_fixed hadmits (fun _ hn => List.mem_append_right _ hn) a,
      granting_fixed hadmits (fun _ hn => List.mem_append_left _ hn) a⟩

/-! ## Two listeners -/

/-- A collector of the default settings that tells a listener of failed runs. -/
def listeningCollector (listener : Listener) : Collector :=
  ofMapping { shutdownOnError := true } .plainName (some listener)
    ⟨["nvidia-smi"], some 10, "GPUCollector"⟩ Field.catalogMapping

/-- The failure of a run of the tool that ends with the exit code nine. -/
def nineFailure (c : Collector) : RunFailure := ⟨.exited, c.call.command, 9, "", ""⟩

/-- The two families of a failed scrape are handed out although the listener requests a stop. -/
theorem handsOut_stopping_listener :
    let c := listeningCollector fun _ => ⟨[], true, none⟩
    (Runner.printing 9 "").Reports ∧
      HandsOut c (fun _ => false) (.printing 9 "") (Site.initial ()) ∧
      ((c.collectFor (.printing 9 "") (.staying fun _ => false)).on (Site.initial ())).1 =
        .ok (c.failureReport ⟨.failure, 9, 1⟩) := by
  intro c
  have hreports := Runner.reports_printing 9 ""
  have hands : HandsOut c (fun _ => false) (.printing 9 "") (Site.initial ()) :=
    handsOut c (fun _ => false) (Site.initial ()) hreports
  have hgranted := hands.granted (.inr (.inr (by decide))) (c.failureReport ⟨.failure, 9, 1⟩)
  exact ⟨hreports, hands, (hands.failure rfl (nineFailure c) rfl).trans hgranted.2⟩

/-- If the listener ends in a fault, the two families of a failed scrape are not handed out. -/
theorem collectFor_raising_listener :
    let trouble : Fault := .trouble ⟨.runtime, "callback failed"⟩
    let c := listeningCollector fun _ => ⟨[], false, some trouble⟩
    (Runner.printing 9 "").Reports ∧ (Site.initial ()).stopped = false ∧
      c.finding (Runner.printing 9 "" c.call (Site.initial ()).surroundings).1.outcome =
        .failure (nineFailure c) ∧
      ((c.collectFor (.printing 9 "") (.staying fun _ => false)).on (Site.initial ())).1 =
        .error trouble := by
  intro trouble c
  have hfinding : c.finding (Runner.printing 9 "" c.call ()).1.outcome =
      .failure (nineFailure c) := rfl
  exact ⟨Runner.reports_printing 9 "", rfl, hfinding,
    collectFor_of_failure (fun _ => false) rfl hfinding⟩

end Collector

end GpuMetrics
