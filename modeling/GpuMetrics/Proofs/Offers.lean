import GpuMetrics.Proofs.Handout

/-!
# Offers to a sink

A sink takes the families of a scrape one after the other, and a family that it refuses is offered
again. To tell what a sink receives whatever it answers, it is run together with a list of the
offers that are made to it (`Sink.recorded`).

The offers of one family end with the first one that is taken, or that is refused when a stop has
been requested (`Sends`); those of a scrape are the offers of its families in a row, and they end
early only after a stop request (`Delivers`). A run of the program leads to such offers
(`send_sends`, `deliver_delivers`), so what a sink receives follows from them alone: it is a front
part of the families of the scrape (`Delivers.received_prefix`), and if some are missing, a stop was
requested (`Delivers.requested`), after a failed scrape by the time that the last offer was refused
(`Delivers.refused`).

The tries are a bound on the run and no part of what comes of it: an end that is reached is reached
with more tries as well (`deliver_succ`), and only a sink that refuses one family all the time, with
no stop requested, uses them up (`Delivers.refused_of_stuck`).
-/

namespace GpuMetrics

/-- Without a request the site stays as it is. -/
@[simp] theorem Site.stopping_false {σ : Type} (site : Site σ) : site.stopping false = site := by
  rw [Site.stopping, Bool.or_false]

/-- Requests one after the other count as one. -/
@[simp] theorem Site.stopping_stopping {σ : Type} (site : Site σ) (a b : Bool) :
    (site.stopping a).stopping b = site.stopping (a || b) := by
  rw [Site.stopping, Site.stopping, Site.stopping, Bool.or_assoc]

namespace Collector

variable {σ φ : Type}

/-! ## Offers -/

/-- An offer of a family, and what the sink answered. -/
structure Offer where
  family : Metric.Family
  answer : Answer

/-- The sink together with the offers that were made to it, from the first to the last. -/
def Sink.recorded (sink : Sink φ) : Sink (φ × List Offer) := fun f s =>
  ((sink f s.1).1, (sink f s.1).2, s.2 ++ [⟨f, (sink f s.1).1⟩])

/-- The families of the offers that were accepted. -/
def received (offers : List Offer) : List Metric.Family :=
  (offers.filter (·.answer.accepted)).map (·.family)

/-- Whether a stop was requested during one of the offers. -/
def requested (offers : List Offer) : Bool := offers.any (·.answer.requestsStop)

/-- Of offers one after the other the sink receives what it receives of each of them. -/
theorem received_append (before offers : List Offer) :
    received (before ++ offers) = received before ++ received offers := by
  rw [received, List.filter_append, List.map_append, received, received]

/-- A stop was requested during the first offer or during one of the others. -/
theorem requested_cons (o : Offer) (offers : List Offer) :
    requested (o :: offers) = (o.answer.requestsStop || requested offers) := List.any_cons

/-- A stop was requested during offers one after the other if it was during some of them. -/
theorem requested_append (before offers : List Offer) :
    requested (before ++ offers) = (requested before || requested offers) := List.any_append

/-! ## The offers of one family -/

/-- How the offers of a family with so many tries end, and what they are, if a stop was requested
before or not. -/
inductive Sends (f : Metric.Family) : Nat → Bool → Sending → List Offer → Prop
  | /-- There are no tries. -/
    stuck {stopped : Bool} : Sends f 0 stopped .stuck []
  | /-- The sink takes the family. -/
    taken {tries : Nat} {stopped : Bool} {a : Answer} (h : a.accepted = true) :
      Sends f (tries + 1) stopped .taken [⟨f, a⟩]
  | /-- The sink is full, and a stop was requested by then. -/
    dropped {tries : Nat} {stopped : Bool} {a : Answer} (h : a.accepted = false)
      (hstop : (stopped || a.requestsStop) = true) :
      Sends f (tries + 1) stopped .dropped [⟨f, a⟩]
  | /-- The sink is full, and the family is offered again. -/
    again {tries : Nat} {stopped : Bool} {a : Answer} {sending : Sending} {offers : List Offer}
      (h : a.accepted = false) (hstop : (stopped || a.requestsStop) = false)
      (rest : Sends f tries (stopped || a.requestsStop) sending offers) :
      Sends f (tries + 1) stopped sending (⟨f, a⟩ :: offers)

section Sends

variable {f : Metric.Family} {tries : Nat} {stopped : Bool} {sending : Sending}
  {offers : List Offer}

/-- A family that the sink takes is all that it receives. -/
theorem Sends.received_of_taken (h : Sends f tries stopped sending offers)
    (hs : sending = .taken) : received offers = [f] := by
  induction h with
  | stuck => cases hs
  | taken h => simp [received, h]
  | dropped => cases hs
  | again h _ _ ih => simpa [received, h] using ih hs

/-- If the sink does not take the family, it receives nothing. -/
theorem Sends.received_of_not_taken (h : Sends f tries stopped sending offers)
    (hs : sending ≠ .taken) : received offers = [] := by
  induction h with
  | stuck => rfl
  | taken => exact absurd rfl hs
  | dropped h => simp [received, h]
  | again h _ _ ih => simpa [received, h] using ih hs

/-- A family is dropped when its last offer is refused and a stop was requested by then. -/
theorem Sends.refused (h : Sends f tries stopped sending offers) (hs : sending = .dropped) :
    (stopped || requested offers) = true ∧
      ∃ before last, offers = before ++ [last] ∧ last.answer.accepted = false := by
  induction h with
  | stuck => cases hs
  | taken => cases hs
  | @dropped _ _ a h hstop => exact ⟨by simpa [requested] using hstop, [], ⟨f, a⟩, rfl, h⟩
  | @again _ _ a _ _ _ _ _ ih =>
    obtain ⟨hrequested, before, last, rfl, hlast⟩ := ih hs
    refine ⟨?_, ⟨f, a⟩ :: before, last, rfl, hlast⟩
    rw [requested_cons, ← Bool.or_assoc]
    exact hrequested

/-- When the tries are used up, every one of them was refused, and no stop was requested. -/
theorem Sends.refused_of_stuck (h : Sends f tries stopped sending offers) (hs : sending = .stuck) :
    offers.length = tries ∧ (∀ o ∈ offers, o.family = f ∧ o.answer.accepted = false) ∧
      (0 < tries → (stopped || requested offers) = false) := by
  induction h with
  | stuck =>
    exact ⟨rfl, fun _ ho => absurd ho List.not_mem_nil, fun h => absurd h (Nat.lt_irrefl 0)⟩
  | taken => cases hs
  | dropped => cases hs
  | @again tries stopped a sending offers h hstop rest ih =>
    obtain ⟨hlength, hrefused, hgoing⟩ := ih hs
    refine ⟨congrArg (· + 1) hlength, List.forall_mem_cons.mpr ⟨⟨rfl, h⟩, hrefused⟩, fun _ => ?_⟩
    rw [requested_cons, ← Bool.or_assoc]
    -- Without any tries left there is no offer but this one, and no word of a later one.
    cases tries with
    | zero =>
      obtain rfl : offers = [] := List.eq_nil_of_length_eq_zero hlength
      rw [hstop]
      rfl
    | succ tries => exact hgoing (Nat.succ_pos tries)

end Sends

/-- An offer, and what follows it. -/
theorem send_on (sink : Sink φ) (f : Metric.Family) (tries : Nat) (s : φ) (site : Site σ) :
    (send sink f (tries + 1) s).on site =
      let answer := (sink f s).1
      let next := site.stopping answer.requestsStop
      if answer.accepted then (.ok (.taken, (sink f s).2), next)
      else if next.stopped then (.ok (.dropped, (sink f s).2), next)
      else (send sink f tries (sink f s).2).on next := by
  -- What follows the request is looked at on any site.
  have hrest (next : Site σ) : (if (sink f s).1.accepted then
        (pure (.taken, (sink f s).2) : Session σ (Sending × φ))
      else do
        if ← Session.isStopped then return (.dropped, (sink f s).2)
        else send sink f tries (sink f s).2).on next =
      if (sink f s).1.accepted then (.ok (.taken, (sink f s).2), next)
      else if next.stopped then (.ok (.dropped, (sink f s).2), next)
      else (send sink f tries (sink f s).2).on next := by
    cases (sink f s).1.accepted with
    | true => rfl
    | false =>
      simp only [Bool.false_eq_true, if_false]
      rw [Session.on_bind_ok _ (Session.on_isStopped _)]
      cases next.stopped <;> rfl
  rw [send]
  simp only
  cases hstop : (sink f s).1.requestsStop with
  | true =>
    rw [if_pos rfl, Session.on_bind_ok _ (Session.on_requestStop _), hrest, Site.stopping,
      Bool.or_true]
  | false =>
    rw [if_neg Bool.false_ne_true, Site.stopping_false]
    exact hrest site

/-- What the offers of a family come to, and that recording them changes nothing. A stop that is
requested during an offer counts from then on. -/
theorem send_sends (sink : Sink φ) (f : Metric.Family) (tries : Nat) (s : φ) (before : List Offer)
    (site : Site σ) :
    ∃ sending s' offers,
      (send sink f tries s).on site = (.ok (sending, s'), site.stopping (requested offers)) ∧
      (send sink.recorded f tries (s, before)).on site =
        (.ok (sending, s', before ++ offers), site.stopping (requested offers)) ∧
      Sends f tries site.stopped sending offers := by
  -- The induction is on the tries; what was offered before and what the site is stay open.
  induction tries generalizing s before site with
  | zero => exact ⟨.stuck, s, [], by simp [send, requested], by simp [send, requested], .stuck⟩
  | succ tries ih =>
    rw [send_on, send_on, Sink.recorded]
    simp only
    have hone : requested [⟨f, (sink f s).1⟩] = (sink f s).1.requestsStop := by simp [requested]
    cases haccepted : (sink f s).1.accepted with
    | true =>
      refine ⟨.taken, (sink f s).2, [⟨f, (sink f s).1⟩], ?_, ?_, .taken haccepted⟩
      all_goals rw [hone]; rfl
    | false =>
      cases hstop : site.stopped || (sink f s).1.requestsStop with
      | true =>
        refine ⟨.dropped, (sink f s).2, [⟨f, (sink f s).1⟩], ?_, ?_, .dropped haccepted hstop⟩
        all_goals rw [hone, Site.stopping, hstop]; rfl
      | false =>
        obtain ⟨sending, s', offers, hplain, hrecorded, hsends⟩ :=
          ih (sink f s).2 (before ++ [⟨f, (sink f s).1⟩])
            (site.stopping (sink f s).1.requestsStop)
        have hall := requested_cons ⟨f, (sink f s).1⟩ offers
        have hgoing : (site.stopping (sink f s).1.requestsStop).stopped = false := hstop
        refine ⟨sending, s', ⟨f, (sink f s).1⟩ :: offers, ?_, ?_, .again haccepted hstop hsends⟩
        · rw [if_neg Bool.false_ne_true, hgoing, if_neg Bool.false_ne_true, hplain, hall,
            Site.stopping_stopping]
        · rw [if_neg Bool.false_ne_true, hgoing, if_neg Bool.false_ne_true, hrecorded, hall,
            Site.stopping_stopping, List.append_assoc, List.singleton_append]

/-! ## The offers of a scrape -/

/-- How many families of a scrape are taken with so many tries for each, whether the tries are used
up before the end, and what the offers are, if a stop was requested before or not. -/
inductive Delivers (failed : Bool) (tries : Nat) :
    Bool → List Metric.Family → Nat → Bool → List Offer → Prop
  | /-- There are no more families. -/
    done {stopped : Bool} : Delivers failed tries stopped [] 0 false []
  | /-- Of a successful scrape nothing is offered any more after a stop request. -/
    halted {f : Metric.Family} {left : List Metric.Family} (hfailed : failed = false) :
      Delivers failed tries true (f :: left) 0 false []
  | /-- A family is taken, and then the next ones are offered. -/
    taken {stopped stuck : Bool} {f : Metric.Family} {left : List Metric.Family} {n : Nat}
      {first rest : List Offer} (hgoing : (!failed && stopped) = false)
      (hfirst : Sends f tries stopped .taken first)
      (hrest : Delivers failed tries (stopped || requested first) left n stuck rest) :
      Delivers failed tries stopped (f :: left) (n + 1) stuck (first ++ rest)
  | /-- A family is dropped, and no other one is offered. -/
    dropped {stopped : Bool} {f : Metric.Family} {left : List Metric.Family} {offers : List Offer}
      (hgoing : (!failed && stopped) = false) (hsends : Sends f tries stopped .dropped offers) :
      Delivers failed tries stopped (f :: left) 0 false offers
  | /-- The tries of a family are used up. -/
    stuck {stopped : Bool} {f : Metric.Family} {left : List Metric.Family} {offers : List Offer}
      (hgoing : (!failed && stopped) = false) (hsends : Sends f tries stopped .stuck offers) :
      Delivers failed tries stopped (f :: left) 0 true offers

section Delivers

variable {failed : Bool} {tries : Nat} {stopped stuck : Bool} {families : List Metric.Family}
  {n : Nat} {offers : List Offer}

/-- What the sink receives is a front part of the families, and as many as are counted. -/
theorem Delivers.received_prefix (h : Delivers failed tries stopped families n stuck offers) :
    received offers <+: families ∧ n = (received offers).length := by
  induction h with
  | done => exact ⟨List.nil_prefix, rfl⟩
  | halted => exact ⟨List.nil_prefix, rfl⟩
  | taken _ hfirst _ ih =>
    obtain ⟨hfront, hcount⟩ := ih
    rw [received_append, hfirst.received_of_taken rfl]
    exact ⟨(List.prefix_cons_inj _).mpr hfront, congrArg (· + 1) hcount⟩
  | dropped _ hsends =>
    rw [hsends.received_of_not_taken (by simp)]
    exact ⟨List.nil_prefix, rfl⟩
  | stuck _ hsends =>
    rw [hsends.received_of_not_taken (by simp)]
    exact ⟨List.nil_prefix, rfl⟩

/-- If the sink does not receive all families, a stop was requested. -/
theorem Delivers.requested (h : Delivers failed tries stopped families n stuck offers)
    (hstuck : stuck = false) (hmissing : received offers ≠ families) :
    (stopped || Collector.requested offers) = true := by
  induction h with
  | done => exact absurd rfl hmissing
  | halted => rfl
  | taken _ hfirst _ ih =>
    rw [received_append, hfirst.received_of_taken rfl] at hmissing
    have hrest := ih hstuck fun hall => hmissing (congrArg _ hall)
    rw [requested_append, ← Bool.or_assoc]
    exact hrest
  | dropped _ hsends => exact (hsends.refused rfl).1
  | stuck => cases hstuck

/-- If the sink does not receive all families of a failed scrape, its last answer was a refusal. -/
theorem Delivers.refused (h : Delivers failed tries stopped families n stuck offers)
    (hfailed : failed = true) (hstuck : stuck = false) (hmissing : received offers ≠ families) :
    ∃ before last, offers = before ++ [last] ∧ last.answer.accepted = false := by
  induction h with
  | done => exact absurd rfl hmissing
  | halted hsuccess => cases hfailed.symm.trans hsuccess
  | @taken _ _ _ _ _ first _ _ hfirst _ ih =>
    rw [received_append, hfirst.received_of_taken rfl] at hmissing
    obtain ⟨before, last, rfl, hlast⟩ :=
      ih hstuck fun hall => hmissing (congrArg _ hall)
    exact ⟨first ++ before, last, (List.append_assoc ..).symm, hlast⟩
  | dropped _ hsends => exact (hsends.refused rfl).2
  | stuck => cases hstuck

/-- If the tries are used up, as many offers in a row were those of one family, and all were
refused before any stop request. -/
theorem Delivers.refused_of_stuck (h : Delivers failed tries stopped families n stuck offers)
    (hstuck : stuck = true) :
    ∃ f before last, offers = before ++ last ∧ last.length = tries ∧
      (∀ o ∈ last, o.family = f ∧ o.answer.accepted = false) ∧
      (0 < tries → (stopped || Collector.requested offers) = false) := by
  induction h with
  | done => cases hstuck
  | halted => cases hstuck
  | @taken _ _ _ _ _ first _ _ _ _ ih =>
    obtain ⟨f, before, last, rfl, hlength, hrefused, hgoing⟩ := ih hstuck
    refine ⟨f, first ++ before, last, (List.append_assoc ..).symm, hlength, hrefused, fun h => ?_⟩
    rw [requested_append, ← Bool.or_assoc]
    exact hgoing h
  | dropped => cases hstuck
  | @stuck _ f _ offers _ hsends =>
    obtain ⟨hlength, hrefused, hgoing⟩ := hsends.refused_of_stuck rfl
    exact ⟨f, [], offers, rfl, hlength, hrefused, hgoing⟩

end Delivers

section Deliver

variable (c : Collector) {failed : Bool} (sink : Sink φ) (tries n : Nat) (f : Metric.Family)
  (left : List Metric.Family) {s s' : φ} {site t : Site σ}

/-- The record of a family that is dropped. -/
def dropRecord : Log.Record :=
  .plain c.channel .info "Stop requested, consumer is not reading, dropping metrics"

/-- After a successful scrape and a stop request nothing more is offered. -/
theorem deliver_on_stopped (hstopped : site.stopped = true) :
    (c.deliver false sink tries n (f :: left) s).on site =
      (.ok (⟨n, false⟩, s), { site with records := site.records ++ [c.abortRecord] }) := by
  rw [deliver, Session.on_bind_ok _ (isOver_of_stopped c site hstopped)]
  rfl

/-- What follows the offers of a family depends on how they end. -/
theorem deliver_on_going (hgoing : (!failed && site.stopped) = false) {sending : Sending}
    (hsend : (send sink f tries s).on site = (.ok (sending, s'), t)) :
    (c.deliver failed sink tries n (f :: left) s).on site = match sending with
      | .taken => (c.deliver failed sink tries (n + 1) left s').on t
      | .dropped => (.ok (⟨n, false⟩, s'), { t with records := t.records ++ [c.dropRecord] })
      | .stuck => (.ok (⟨n, true⟩, s'), t) := by
  rw [deliver, Session.on_bind_ok _ (isOver_of_going c site hgoing), if_neg Bool.false_ne_true,
    Session.on_bind_ok _ hsend]
  cases sending <;> rfl

end Deliver

/-- What the offers of a scrape come to, and that recording them changes nothing. -/
theorem deliver_delivers (c : Collector) (failed : Bool) (sink : Sink φ) (tries n : Nat)
    (families : List Metric.Family) (s : φ) (before : List Offer) (site : Site σ) :
    ∃ k stuck s' offers t,
      (c.deliver failed sink tries n families s).on site = (.ok (⟨n + k, stuck⟩, s'), t) ∧
      (c.deliver failed sink.recorded tries n families (s, before)).on site =
        (.ok (⟨n + k, stuck⟩, s', before ++ offers), t) ∧
      t.stopped = (site.stopped || requested offers) ∧
      Delivers failed tries site.stopped families k stuck offers := by
  -- The count so far, what was offered before and what the site is change with every family.
  induction families generalizing n s before site with
  | nil =>
    refine ⟨0, false, s, [], site, rfl, ?_, (Bool.or_false _).symm, .done⟩
    rw [List.append_nil]
    rfl
  | cons f left ih =>
    cases hgoing : !failed && site.stopped with
    | true =>
      obtain ⟨hfailed, hstopped⟩ := Bool.and_eq_true_iff.mp hgoing
      obtain rfl : failed = false := by simpa using hfailed
      rw [deliver_on_stopped c _ _ _ _ _ hstopped, deliver_on_stopped c _ _ _ _ _ hstopped,
        hstopped]
      refine ⟨0, false, s, [], _, rfl, ?_, rfl, .halted rfl⟩
      rw [List.append_nil]
      rfl
    | false =>
      obtain ⟨sending, s', first, hplain, hrecorded, hsends⟩ :=
        send_sends sink f tries s before site
      rw [deliver_on_going c _ _ _ _ _ hgoing hplain, deliver_on_going c _ _ _ _ _ hgoing hrecorded]
      cases sending with
      | taken =>
        obtain ⟨k, stuck, s'', rest, t, hplain, hrecorded, hstopped, hdelivers⟩ :=
          ih (n + 1) s' (before ++ first) (site.stopping (requested first))
        refine ⟨k + 1, stuck, s'', first ++ rest, t, ?_, ?_, ?_, .taken hgoing hsends hdelivers⟩
        · rw [← Nat.add_assoc, Nat.add_right_comm]
          exact hplain
        · rw [← Nat.add_assoc, Nat.add_right_comm, ← List.append_assoc]
          exact hrecorded
        · rw [hstopped, requested_append, ← Bool.or_assoc]
          rfl
      | dropped => exact ⟨0, false, s', first, _, rfl, rfl, rfl, .dropped hgoing hsends⟩
      | stuck => exact ⟨0, true, s', first, _, rfl, rfl, rfl, .stuck hgoing hsends⟩

/-! ## More tries -/

section MoreTries

variable {c : Collector} {failed : Bool} {sink : Sink φ} {tries n m : Nat} {f : Metric.Family}
  {families : List Metric.Family} {s s' : φ} {site t : Site σ}

/-- The offers of a family that end before the tries are used up end so with one more try. -/
theorem send_succ {sending : Sending}
    (h : (send sink f tries s).on site = (.ok (sending, s'), t)) (hs : sending ≠ .stuck) :
    (send sink f (tries + 1) s).on site = (.ok (sending, s'), t) := by
  induction tries generalizing s site with
  | zero =>
    cases h
    exact absurd rfl hs
  | succ tries ih =>
    rw [send_on] at h ⊢
    simp only at h ⊢
    -- Only a family that is offered again comes to the tries that are left.
    split at h
    · next haccepted => rw [if_pos haccepted, h]
    · next haccepted =>
      rw [if_neg haccepted]
      split at h
      · next hstop => rw [if_pos hstop, h]
      · next hstop => rw [if_neg hstop, ih h]

/-- A delivery that ends before the tries are used up ends so with one more try. -/
theorem deliver_succ
    (h : (c.deliver failed sink tries n families s).on site = (.ok (⟨m, false⟩, s'), t)) :
    (c.deliver failed sink (tries + 1) n families s).on site = (.ok (⟨m, false⟩, s'), t) := by
  induction families generalizing n s site with
  | nil => exact h
  | cons f left ih =>
    cases hgoing : !failed && site.stopped with
    | true =>
      obtain ⟨hfailed, hstopped⟩ := Bool.and_eq_true_iff.mp hgoing
      obtain rfl : failed = false := by simpa using hfailed
      rw [deliver_on_stopped c _ _ _ _ _ hstopped] at h ⊢
      exact h
    | false =>
      obtain ⟨sending, s₁, first, hsend, -, -⟩ := send_sends sink f tries s [] site
      rw [deliver_on_going c _ _ _ _ _ hgoing hsend] at h
      cases sending with
      | taken =>
        rw [deliver_on_going c _ _ _ _ _ hgoing (send_succ hsend (by simp))]
        exact ih h
      | dropped =>
        rw [deliver_on_going c _ _ _ _ _ hgoing (send_succ hsend (by simp))]
        exact h
      | stuck => cases h

end MoreTries

/-! ## Free slots -/

/-- A sink that takes so many families before it refuses any, whatever they are. -/
def FreeSlots (sink : Sink φ) : Nat → φ → Prop
  | 0, _ => True
  | k + 1, s => ∀ f, (sink f s).1.accepted = true ∧ FreeSlots sink k (sink f s).2

/-- The families of a failed scrape are all taken if there are as many free slots, whoever requests
a stop and when. -/
theorem deliver_of_freeSlots (c : Collector) {sink : Sink φ} {families : List Metric.Family}
    {s : φ} (h : FreeSlots sink families.length s) (tries n : Nat) (site : Site σ) :
    ∃ s' t, (c.deliver true sink (tries + 1) n families s).on site =
      (.ok (⟨n + families.length, false⟩, s'), t) := by
  induction families generalizing n s site with
  | nil => exact ⟨s, site, rfl⟩
  | cons f left ih =>
    obtain ⟨haccepted, hfree⟩ := h f
    have hsend : (send sink f (tries + 1) s).on site =
        (.ok (.taken, (sink f s).2), site.stopping (sink f s).1.requestsStop) := by
      rw [send_on]
      exact if_pos haccepted
    obtain ⟨s', t, hrest⟩ := ih hfree (n + 1) (site.stopping (sink f s).1.requestsStop)
    refine ⟨s', t, ?_⟩
    rw [deliver_on_going c _ _ _ _ _ rfl hsend, List.length_cons, ← Nat.add_assoc,
      Nat.add_right_comm]
    exact hrest

/-- A queue has as many free slots as it has room besides the families in it. -/
theorem freeSlots_queue {plan : Queue.Plan} {k : Nat} {q : Queue}
    (h : ∀ room, plan.room = some room → q.size + k ≤ room) :
    FreeSlots (Queue.offer plan) k q := by
  induction k generalizing q with
  | zero => trivial
  | succ k ih =>
    intro f
    have hfull : q.isFull plan = false := by
      unfold Queue.isFull
      cases hroom : plan.room with
      | none => rfl
      | some room =>
        have hsize := h room hroom
        simp only [decide_eq_false_iff_not]
        omega
    have hoffer : Queue.offer plan f q = (⟨true, Queue.reaches plan.stopsBefore q.taken.length⟩,
        { q with taken := q.taken ++ [f] }) := by
      rw [Queue.offer, hfull]
      rfl
    rw [hoffer]
    refine ⟨rfl, ih fun room hroom => ?_⟩
    have hsize := h room hroom
    simp only [Queue.size, List.length_append, List.length_singleton] at hsize ⊢
    omega

end Collector

end GpuMetrics
