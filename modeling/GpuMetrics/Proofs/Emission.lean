import GpuMetrics.Collector.Delivery
import GpuMetrics.Proofs.Scrape

/-!
# Handing out and pushing families

Once a scrape has run, handing out its families changes nothing but the log and the stop request
(`Session.Quiet`), however the reader or the sink behaves. So what a collection leaves behind is
what its scrape leaves behind (`collectFor_quieted`, `collectInto_quieted`). The two families of a
failed scrape are handed out in any case, to a reader that stays (`collectFor_of_failed`) and to any
sink (`collectInto_of_failed`).
-/

namespace GpuMetrics

/-! ## Sessions that only log and request a stop -/

/-- The site without its log and without the stop request. -/
def Site.quieted {σ : Type} (site : Site σ) : Site σ :=
  { site with stopped := false, records := [] }

/-- What scrapes have left behind does not depend on the log and the stop request. -/
theorem Site.results_quieted {σ : Type} (site : Site σ) :
    site.quieted.results = site.results := rfl

/-- A session that changes nothing but the log and the stop request. -/
abbrev Session.Quiet {σ α : Type} (x : Session σ α) : Prop := x.Keeps Site.quieted

/-- A session that changes nothing but the log. -/
abbrev Session.LogsOnly {σ α : Type} (x : Session σ α) : Prop := x.Keeps Site.unlogged

/-- Without the log a site has the same besides its log and the stop request. -/
theorem Site.quieted_unlogged {σ : Type} (site : Site σ) :
    site.unlogged.quieted = site.quieted := rfl

/-- A session that changes nothing but the log is quiet. -/
theorem Session.quiet_of_logsOnly {σ α : Type} {x : Session σ α} (h : x.LogsOnly) : x.Quiet := by
  intro site
  rw [← Site.quieted_unlogged, h site, Site.quieted_unlogged]

namespace Collector

open Session

variable {σ φ : Type} (c : Collector)

/-! ## Descriptions, readers and sinks are quiet -/

/-- A description is quiet. -/
theorem quiet_describe : (c.describe : Session σ (List Metric.Family)).Quiet :=
  keeps_bind (keeps_change fun _ => rfl) fun _ => keeps_bind (keeps_ofExcept _) fun _ =>
    keeps_bind (keeps_ofExcept _) fun _ => keeps_bind (keeps_ofExcept _) fun _ => keeps_pure _

/-- The look at the stop request before a family only logs. -/
theorem logsOnly_isOver (failed : Bool) : (c.isOver failed : Session σ Bool).LogsOnly := by
  refine keeps_ite (keeps_pure _) (keeps_bind keeps_isStopped fun stopped => ?_)
  exact keeps_ite (keeps_bind (keeps_change fun _ => rfl) fun _ => keeps_pure _) (keeps_pure _)

/-- The look at the stop request before a family is quiet. -/
theorem quiet_isOver (failed : Bool) : (c.isOver failed : Session σ Bool).Quiet :=
  quiet_of_logsOnly (c.logsOnly_isOver failed)

/-- A reader is quiet. -/
theorem quiet_emit (failed : Bool) (reader : Reader) (n : Nat) (families : List Metric.Family) :
    (c.emit failed reader n families : Session σ (List Metric.Family)).Quiet := by
  induction families generalizing n with
  | nil => exact keeps_pure _
  | cons f left ih =>
    refine keeps_bind (c.quiet_isOver failed) fun _ => keeps_ite (keeps_pure _) ?_
    -- The reader may request a stop first; what it does then is the same either way.
    have hrest : (if reader.leaves (n + 1) then (pure [f] : Session σ _)
        else do return f :: (← c.emit failed reader (n + 1) left)).Quiet :=
      keeps_ite (keeps_pure _) (keeps_bind (ih (n + 1)) fun _ => keeps_pure _)
    exact keeps_ite (keeps_bind (keeps_change fun _ => rfl) fun _ => hrest) hrest

/-- The offers of a family are quiet. -/
theorem quiet_send (sink : Sink φ) (f : Metric.Family) (tries : Nat) (s : φ) :
    (send sink f tries s : Session σ (Sending × φ)).Quiet := by
  induction tries generalizing s with
  | zero => exact keeps_pure _
  | succ tries ih =>
    have hrest : (if (sink f s).1.accepted then (pure (.taken, (sink f s).2) : Session σ _)
        else do
          if ← Session.isStopped then return (.dropped, (sink f s).2)
          else send sink f tries (sink f s).2).Quiet :=
      keeps_ite (keeps_pure _)
        (keeps_bind keeps_isStopped fun _ => keeps_ite (keeps_pure _) (ih _))
    exact keeps_ite (keeps_bind (keeps_change fun _ => rfl) fun _ => hrest) hrest

/-- A sink is quiet. -/
theorem quiet_deliver (failed : Bool) (sink : Sink φ) (tries n : Nat)
    (families : List Metric.Family) (s : φ) :
    (c.deliver failed sink tries n families s : Session σ (Delivery × φ)).Quiet := by
  induction families generalizing n s with
  | nil => exact keeps_pure _
  | cons f left ih =>
    refine keeps_bind (c.quiet_isOver failed) fun _ => keeps_ite (keeps_pure _) ?_
    refine keeps_bind (quiet_send sink f tries s) fun sent => ?_
    obtain ⟨sending, s'⟩ := sent
    cases sending with
    | taken => exact ih (n + 1) s'
    | dropped => exact keeps_bind (keeps_change fun _ => rfl) fun _ => keeps_pure _
    | stuck => exact keeps_pure _

/-! ## What a collection leaves behind -/

variable (runner : Runner σ) (site : Site σ)

/-- The record of a collection that is not begun. -/
def skipRecord : Log.Record := .plain c.channel .info "Stop requested, skipping scrape"

/-- After a stop request nothing is scraped. -/
theorem begin_of_stopped (h : site.stopped = true) :
    (c.begin runner).on site =
      (.ok none, { site with records := site.records ++ [c.skipRecord] }) := by
  rw [begin, Session.on_bind_ok _ (Session.on_isStopped _), if_pos h,
    Session.on_bind_ok _ (Session.on_note _ _ _ _), Session.on_pure]
  rfl

/-- Before any stop request, what follows the look at it follows a scrape. -/
theorem begin_bind (h : site.stopped = false) {α : Type} (f : Option Yield → Session σ α) :
    (c.begin runner >>= f).on site = (c.scrape runner >>= fun y => f (some y)).on site := by
  have hbegin : (c.begin runner).on site =
      (c.scrape runner >>= fun y => pure (some y)).on site := by
    rw [begin, Session.on_bind_ok _ (Session.on_isStopped _)]
    simp only [h, Bool.false_eq_true, if_false]
  rw [Session.on_bind, hbegin, Session.on_bind, Session.on_bind]
  rcases (c.scrape runner).on site with ⟨e | y, s⟩ <;> rfl

/-- What is done quietly with the families leaves behind what the scrape does, and nothing without
one. -/
theorem begin_bind_quieted {α : Type} {f : Option Yield → Session σ α} (hf : ∀ y, (f y).Quiet) :
    ((c.begin runner >>= f).on site).2.quieted =
      if site.stopped then site.quieted else ((c.scrape runner).on site).2.quieted := by
  cases h : site.stopped with
  | true =>
    rw [view_bind _ hf, begin_of_stopped c runner site h]
    rfl
  | false =>
    rw [begin_bind c runner site h, view_bind _ fun y => hf (some y)]
    rfl

/-- A collection leaves behind what its scrape does, and nothing without one. -/
theorem collectFor_quieted (reader : Reader) :
    ((c.collectFor runner reader).on site).2.quieted =
      if site.stopped then site.quieted else ((c.scrape runner).on site).2.quieted := by
  refine begin_bind_quieted c runner site fun y => ?_
  cases y with
  | none => exact keeps_pure _
  | some y => exact c.quiet_emit y.failed reader 0 y.families

/-- A collection for a sink leaves behind what its scrape does, and nothing without one. -/
theorem collectInto_quieted (sink : Sink φ) (tries : Nat) (s : φ) :
    ((c.collectInto runner sink tries s).on site).2.quieted =
      if site.stopped then site.quieted else ((c.scrape runner).on site).2.quieted := by
  refine begin_bind_quieted c runner site fun y => ?_
  cases y with
  | none => exact keeps_pure _
  | some y => exact c.quiet_deliver y.failed sink tries 0 y.families s

/-! ## The families of a failed scrape -/

/-- The families of a failed scrape are handed out to the last, unless the reader leaves. -/
theorem emit_of_failed {reader : Reader} (hstays : ∀ n, reader.leaves n = false) (n : Nat)
    (families : List Metric.Family) (site : Site σ) :
    ((c.emit true reader n families).on site).1 = .ok families := by
  induction families generalizing n site with
  | nil => rfl
  | cons f left ih =>
    -- A stop that the reader requests makes no difference, so the rest is looked at on any site.
    have hrest (s : Site σ) : ((do return f :: (← c.emit true reader (n + 1) left)
        : Session σ (List Metric.Family)).on s).1 = .ok (f :: left) := by
      have hleft := ih (n + 1) s
      rw [Session.on_bind]
      generalize (c.emit true reader (n + 1) left).on s = r at hleft ⊢
      obtain ⟨_, s'⟩ := r
      cases hleft
      rfl
    rw [emit, isOver, if_pos rfl, Session.on_bind_ok _ (Session.on_pure _ _)]
    simp only [hstays, Bool.false_eq_true, if_false]
    split
    · rw [Session.on_bind_ok _ (Session.on_requestStop _)]
      exact hrest _
    · exact hrest _

variable {c runner site}

/-- A reader that stays receives what a failed scrape gives. -/
theorem collectFor_of_failed (h : site.stopped = false)
    {outcome : Except Fault (List Metric.Family)}
    (hscrape : ((c.scrape runner).on site).1 = outcome.map fun families => ⟨families, true⟩)
    {reader : Reader} (hstays : ∀ n, reader.leaves n = false) :
    ((c.collectFor runner reader).on site).1 = outcome := by
  rw [collectFor, begin_bind c runner site h, Session.on_bind]
  generalize (c.scrape runner).on site = r at hscrape ⊢
  obtain ⟨_, s⟩ := r
  cases hscrape
  cases outcome with
  | error e => rfl
  | ok families => exact c.emit_of_failed hstays 0 families s

/-- Before a stop request a sink is offered what the scrape gives, unless the scrape ends in a
fault. -/
theorem collectInto_of_going (h : site.stopped = false) (sink : Sink φ) (tries : Nat) (start : φ) :
    (c.collectInto runner sink tries start).on site =
      match (c.scrape runner).on site with
      | (.ok y, s) => (c.deliver y.failed sink tries 0 y.families start).on s
      | (.error e, s) => (.error e, s) := by
  rw [collectInto, begin_bind c runner site h, Session.on_bind]
  rcases (c.scrape runner).on site with ⟨_ | _, _⟩ <;> rfl

/-- A sink is offered what a failed scrape gives. -/
theorem collectInto_of_failed (h : site.stopped = false) {families : List Metric.Family}
    (hscrape : ((c.scrape runner).on site).1 = .ok ⟨families, true⟩) (sink : Sink φ) (tries : Nat)
    (start : φ) :
    (c.collectInto runner sink tries start).on site =
      (c.deliver true sink tries 0 families start).on ((c.scrape runner).on site).2 := by
  rw [collectInto_of_going h]
  generalize (c.scrape runner).on site = r at hscrape ⊢
  obtain ⟨_, s⟩ := r
  cases hscrape
  rfl

end Collector

end GpuMetrics
