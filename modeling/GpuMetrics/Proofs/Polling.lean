import GpuMetrics.Proofs.Watch
import Mathlib.Algebra.Order.Group.MinMax
import Mathlib.Data.Rat.Floor
import Mathlib.Tactic.Linarith

/-!
# When a watch ends

A watch over a simulated process, with a clock of exact seconds, ends at a time that can be told in
advance. If a stop can be requested, the clock is looked at every tenth of a second, and last at the
deadline; if not, only at the deadline (`Setup.time`). The process is killed at the first of these
times that is the deadline or finds a stop requested (`Setup.IsFirst`), unless it has ended by then.

One round takes the clock from one such time to the next (`roundLength_polled`). A time that stops
nothing leaves the watch one round further, with the state after it in closed form
(`rounds_polled`); so the watch gets to the first time at which it ends, and ends there
(`Setup.exists_result`). There is such a time since the tenths of a second go beyond the end of the
process.
-/

namespace GpuMetrics.Supervision

/-! ## Exact seconds -/

/-- A choice by the order of two exact times. -/
theorem ite_less {α : Type} (a b : ℚ) (x y : α) :
    (if Time.less a b = true then x else y) = if a < b then x else y := by
  simp only [Time.less, decide_eq_true_eq]

/-- What is left until a deadline, in exact seconds. -/
theorem remaining_rat (d t : ℚ) : remaining d t = max (d - t) 0 :=
  (ite_less ..).trans (max_def_lt ..).symm

/-- The shorter of two exact times. -/
theorem shorter_rat (a b : ℚ) : shorter a b = min a b := by
  rw [min_comm, min_def_lt]
  exact ite_less ..

/-- The later of two exact readings. -/
theorem later_rat (a b : ℚ) : Simulation.later a b = max a b :=
  (ite_less ..).trans (max_def_lt ..).symm

/-! ## The simulated machine -/

section Machine

variable {s : Simulation ℚ}

/-- A process that ends within a wait. -/
theorem wait_of_le {w : ℚ} (h : s.endsAt ≤ s.clock + w) :
    Simulation.machine.wait (some w) s =
      (.ok (some s.leftovers),
        { s with waits := s.waits ++ [some w], clock := max s.clock s.endsAt }) := by
  have hwait : Simulation.wait (some w) s =
      (some s.leftovers,
        { s with waits := s.waits ++ [some w], clock := max s.clock s.endsAt }) := by
    rw [← later_rat]
    exact if_pos (decide_eq_true h)
  simp only [Simulation.machine, hwait]

/-- A process that does not end within a wait. -/
theorem wait_of_lt {w : ℚ} (h : s.clock + w < s.endsAt) :
    Simulation.machine.wait (some w) s =
      (.ok none, { s with waits := s.waits ++ [some w], clock := s.clock + w }) := by
  have hwait : Simulation.wait (some w) s =
      (none, { s with waits := s.waits ++ [some w], clock := s.clock + w }) :=
    if_neg fun hle => not_le.mpr h (of_decide_eq_true hle)
  simp only [Simulation.machine, hwait]

/-- A simulated process is overdue if its clock has reached the deadline. -/
theorem isOverdue_machine (deadline : Option ℚ) (s : Simulation ℚ) :
    isOverdue Simulation.machine deadline s = (deadline.any (decide <| · ≤ s.clock), s) := by
  cases deadline with
  | none => rfl
  | some d => rfl

/-- A simulated process is to be stopped if its clock has reached the time of the stop. -/
theorem isStopped_machine (canStop : Bool) (s : Simulation ℚ) :
    isStopped Simulation.machine canStop s =
      (canStop && s.stopsAt.any (decide <| · ≤ s.clock), s) := by
  cases canStop with
  | false => rfl
  | true =>
    rcases h : s.stopsAt with _ | t
    · simp [isStopped, Simulation.machine, Simulation.stopRequested, h]
    · simp [isStopped, Simulation.machine, Simulation.stopRequested, h, Time.atMost]

end Machine

/-! ## The times of a watch -/

/-- A process, and the watch over it. -/
structure Setup where
  /-- The reading of the clock at which the process is started. -/
  start : ℚ
  /-- How long the process runs if it is not killed. -/
  runsFor : ℚ
  /-- How long the process may run. -/
  timeout : Option ℚ
  /-- Whether a stop can be requested. -/
  canStop : Bool
  /-- The time from which on a stop is requested. -/
  stopsAt : Option ℚ
  /-- What the process leaves behind. -/
  leftovers : Leftovers

namespace Setup

variable (c : Setup)

/-- The process that is watched over. -/
def process : Simulation ℚ := .start c.start c.runsFor c.stopsAt c.leftovers

/-- When the process ends by itself. -/
def endsAt : ℚ := c.start + c.runsFor

/-- When the process has run for as long as it may. -/
def deadline : Option ℚ := c.timeout.map (c.start + ·)

/-- The time at which the watch looks at its clock again after a number of rounds. -/
def time (k : ℕ) : Option ℚ :=
  if c.canStop then
    match c.deadline with
    | none => some (c.start + k / 10)
    | some d => some (min (c.start + k / 10) d)
  else c.deadline

/-- Whether a stop is requested at a time. -/
def IsSet (t : ℚ) : Prop := c.canStop = true ∧ ∃ s, c.stopsAt = some s ∧ s ≤ t

/-- Whether the time after a number of rounds stops the process: it is the deadline, or a stop is
requested then. -/
def StopsAt (k : ℕ) (t : ℚ) : Prop := c.time k = some t ∧ (c.deadline = some t ∨ c.IsSet t)

/-- The first round after which the process is stopped, and the time of that. -/
structure IsFirst (K : ℕ) (t : ℚ) : Prop where
  /-- It is a round. -/
  one_le : 1 ≤ K
  /-- The process is stopped after it. -/
  stops : c.StopsAt K t
  /-- The process is not stopped before it. -/
  least : ∀ k t', 1 ≤ k → k < K → ¬ c.StopsAt k t'

/-- Whether the watch ends after some rounds, how it ends, and what is left. -/
def Ends (n : ℕ) (v : Verdict Leftovers) (s : Simulation ℚ) : Prop :=
  ∀ most, n ≤ most →
    watch Simulation.machine c.canStop c.timeout most c.process = (some v, s)

/-- The process after some rounds that ended nothing. -/
def polled (k : ℕ) : Simulation ℚ :=
  { c.process with clock := c.start + k / 10, waits := List.replicate k (some (1 / 10)) }

/-- Whether the deadline has not passed after a number of tenths of a second. -/
def IsBefore (k : ℕ) : Prop := ∀ d, c.deadline = some d → c.start + k / 10 < d

variable {c : Setup} {k n : ℕ} {t : ℚ}

/-- A stop is requested at a time if one can be and its time has come. -/
theorem isSet_iff : (c.canStop && c.stopsAt.any (decide <| · ≤ t)) = true ↔ c.IsSet t := by
  rw [Bool.and_eq_true, Option.any_eq_true, IsSet]
  simp only [decide_eq_true_eq]

instance (c : Setup) (t : ℚ) : Decidable (c.IsSet t) := decidable_of_iff _ isSet_iff

/-- A watch is the rounds up to its deadline. -/
theorem watch_process (most : ℕ) :
    watch Simulation.machine c.canStop c.timeout most c.process =
      rounds Simulation.machine c.canStop c.deadline most (c.polled 0) := by
  have hstart : c.polled 0 = c.process := by
    simp [polled, process, Simulation.start]
  rw [hstart]
  unfold watch deadline
  cases c.timeout with
  | none => rfl
  | some limit => rfl

/-- With a stop that can be requested, the clock is looked at every tenth of a second. -/
theorem time_of_unlimited (hstop : c.canStop = true) (hd : c.deadline = none) :
    c.time k = some (c.start + k / 10) := by
  rw [time, if_pos hstop, hd]

/-- With a deadline as well, it is looked at there for the last time. -/
theorem time_of_deadline {d : ℚ} (hstop : c.canStop = true) (hd : c.deadline = some d) :
    c.time k = some (min (c.start + k / 10) d) := by
  rw [time, if_pos hstop, hd]

/-- With a stop that can be requested, no round takes longer than a tenth of a second. -/
theorem exists_time (hstop : c.canStop = true) (k : ℕ) :
    ∃ t, c.time k = some t ∧ t ≤ c.start + k / 10 := by
  rcases hd : c.deadline with _ | d
  · exact ⟨_, time_of_unlimited hstop hd, le_rfl⟩
  · exact ⟨_, time_of_deadline hstop hd, min_le_left _ _⟩

/-- Without such a stop, the clock is only looked at at the deadline. -/
theorem time_of_not_canStop (hstop : c.canStop = false) : c.time k = c.deadline := by
  rw [time, hstop, if_neg Bool.false_ne_true]

/-- No time of a watch is after its deadline. -/
theorem le_deadline (htime : c.time k = some t) {d : ℚ} (hd : c.deadline = some d) : t ≤ d := by
  cases hstop : c.canStop with
  | false =>
    rw [time_of_not_canStop hstop, hd] at htime
    exact (Option.some.inj htime).ge
  | true =>
    rw [time_of_deadline hstop hd] at htime
    rw [← Option.some.inj htime]
    exact min_le_right _ _

/-- The times of a watch go on. -/
theorem time_mono {j : ℕ} {t' : ℚ} (hle : j ≤ k) (hj : c.time j = some t)
    (hk : c.time k = some t') : t ≤ t' := by
  cases hstop : c.canStop with
  | false =>
    rw [time_of_not_canStop hstop] at hj hk
    exact (Option.some.inj (hj.symm.trans hk)).le
  | true =>
    have hstep : c.start + (j : ℚ) / 10 ≤ c.start + k / 10 := by
      have : (j : ℚ) ≤ k := Nat.cast_le.mpr hle
      linarith
    rcases hd : c.deadline with _ | d
    · rw [time_of_unlimited hstop hd] at hj hk
      rwa [← Option.some.inj hj, ← Option.some.inj hk]
    · rw [time_of_deadline hstop hd] at hj hk
      rw [← Option.some.inj hj, ← Option.some.inj hk]
      exact min_le_min_right d hstep

/-- A time that does not stop the process is before the deadline, and a multiple of tenths of a
second after the start. -/
theorem isBefore_of_not_stopsAt (htime : c.time k = some t) (hgo : ¬ c.StopsAt k t) :
    c.IsBefore k ∧ t = c.start + k / 10 := by
  have hdeadline : c.deadline ≠ some t := fun hd => hgo ⟨htime, .inl hd⟩
  cases hstop : c.canStop with
  | false =>
    -- The only time that such a process is looked at is its deadline.
    rw [time_of_not_canStop hstop] at htime
    exact absurd htime hdeadline
  | true =>
    rcases hd : c.deadline with _ | d
    · rw [time_of_unlimited hstop hd] at htime
      refine ⟨fun d' hd' => ?_, (Option.some.inj htime).symm⟩
      rw [hd] at hd'
      cases hd'
    · rw [time_of_deadline hstop hd] at htime
      rw [hd] at hdeadline
      have hmin : min (c.start + k / 10) d = t := Option.some.inj htime
      have hlt : c.start + k / 10 < d := by
        by_contra hge
        rw [min_eq_right (not_lt.mp hge)] at hmin
        exact hdeadline (congrArg some hmin)
      refine ⟨fun d' hd' => ?_, ?_⟩
      · rw [hd] at hd'
        cases hd'
        exact hlt
      · rw [← hmin, min_eq_left hlt.le]

/-- A round before the deadline lasts until the next time. -/
theorem roundLength_polled (hbefore : c.IsBefore k) (htime : c.time (k + 1) = some t) :
    roundLength Simulation.machine c.canStop c.deadline (c.polled k) =
      (some (t - (c.start + k / 10)), c.polled k) := by
  cases hstop : c.canStop with
  | false =>
    rw [time_of_not_canStop hstop] at htime
    have hlt := hbefore t htime
    rw [htime, roundLength]
    show (some (remaining t (c.start + (k : ℚ) / 10)), c.polled k) = _
    rw [remaining_rat, max_eq_left (by linarith)]
  | true =>
    have hnext : c.start + ((k + 1 : ℕ) : ℚ) / 10 = c.start + k / 10 + 1 / 10 := by
      push_cast
      ring
    rcases hd : c.deadline with _ | d
    · rw [time_of_unlimited hstop hd, hnext] at htime
      rw [← Option.some.inj htime, add_sub_cancel_left]
      rfl
    · rw [time_of_deadline hstop hd, hnext] at htime
      have ht : min (c.start + k / 10 + 1 / 10) d = t := Option.some.inj htime
      have hlt := hbefore d hd
      rw [← ht, roundLength]
      show (some (shorter (1 / 10 : ℚ) (remaining d (c.start + (k : ℚ) / 10))), c.polled k) = _
      rw [shorter_rat, remaining_rat, max_eq_left (by linarith), ← min_sub_sub_right,
        add_sub_cancel_left]

/-- The process after a wait from one time to the next that it outlasted. -/
def outlasted (c : Setup) (k : ℕ) (t : ℚ) : Simulation ℚ :=
  { c.polled k with
    waits := List.replicate k (some (1 / 10)) ++ [some (t - (c.start + k / 10))]
    clock := t }

/-- A process that has not ended by the next time outlasts the wait. -/
theorem wait_polled_of_lt (hlate : t < c.endsAt) :
    Simulation.machine.wait (some (t - (c.start + k / 10))) (c.polled k) =
      (.ok none, c.outlasted k t) := by
  have ht : (c.polled k).clock + (t - (c.start + k / 10)) = t := add_sub_cancel ..
  rw [wait_of_lt (by rwa [ht]), ht]
  rfl

/-- A process that has ended by the next time ends within the wait. -/
theorem wait_polled_of_le (hend : c.endsAt ≤ t) :
    Simulation.machine.wait (some (t - (c.start + k / 10))) (c.polled k) =
      (.ok (some c.leftovers),
        { c.outlasted k t with clock := max (c.start + k / 10) c.endsAt }) := by
  have ht : (c.polled k).clock + (t - (c.start + k / 10)) = t := add_sub_cancel ..
  rw [wait_of_le (by rwa [ht])]
  rfl

/-- The watch is overdue at the deadline and at no other of its times. -/
theorem isOverdue_outlasted (htime : c.time (k + 1) = some t) :
    isOverdue Simulation.machine c.deadline (c.outlasted k t) =
      (decide (c.deadline = some t), c.outlasted k t) := by
  rw [isOverdue_machine]
  rcases hd : c.deadline with _ | d
  · rfl
  · have hle : t ≤ d := le_deadline htime hd
    have hiff : d ≤ t ↔ some d = some t :=
      ⟨fun h => congrArg some (le_antisymm h hle), fun h => (Option.some.inj h).le⟩
    exact congrArg (·, c.outlasted k t) (decide_eq_decide.mpr hiff)

/-- A stop is found requested after a wait if it is requested at its end. -/
theorem isStopped_outlasted :
    isStopped Simulation.machine c.canStop (c.outlasted k t) =
      (decide (c.IsSet t), c.outlasted k t) := by
  rw [isStopped_machine]
  have hset : (c.canStop && c.stopsAt.any (decide <| · ≤ t)) = decide (c.IsSet t) := by
    rw [Bool.eq_iff_iff, isSet_iff, decide_eq_true_iff]
  exact congrArg (·, c.outlasted k t) hset

/-- A time that stops nothing leaves the watch one round further. -/
theorem rounds_polled_succ (hbefore : c.IsBefore k) (htime : c.time (k + 1) = some t)
    (hlate : t < c.endsAt) (hgo : ¬ c.StopsAt (k + 1) t) :
    rounds Simulation.machine c.canStop c.deadline (n + 1) (c.polled k) =
      rounds Simulation.machine c.canStop c.deadline n (c.polled (k + 1)) := by
  have hoverdue := isOverdue_outlasted htime
  have hstopped := isStopped_outlasted (c := c) (k := k) (t := t)
  rw [decide_eq_false fun hd => hgo ⟨htime, .inl hd⟩] at hoverdue
  rw [decide_eq_false fun hset => hgo ⟨htime, .inr hset⟩] at hstopped
  have ht : t = c.start + ((k + 1 : ℕ) : ℚ) / 10 := (isBefore_of_not_stopsAt htime hgo).2
  have hwait : t - (c.start + k / 10) = 1 / 10 := by
    rw [ht]
    push_cast
    ring
  have hnext : c.outlasted k t = c.polled (k + 1) := by
    rw [outlasted, hwait, ← List.replicate_succ', ht]
    rfl
  rw [rounds_of_again (roundLength_polled hbefore htime) (wait_polled_of_lt hlate) hoverdue
    hstopped, hnext]

/-- Whether the process has neither ended nor is stopped after a number of rounds. -/
def GoesOn (c : Setup) (k : ℕ) : Prop :=
  ∃ t, c.time k = some t ∧ t < c.endsAt ∧ ¬ c.StopsAt k t

/-- Rounds after which the process goes on only wait for it. -/
theorem rounds_polled (hstart : c.IsBefore 0) (n : ℕ)
    (hgo : ∀ i, 1 ≤ i → i ≤ k → c.GoesOn i) :
    rounds Simulation.machine c.canStop c.deadline (k + n) (c.polled 0) =
      rounds Simulation.machine c.canStop c.deadline n (c.polled k) ∧ c.IsBefore k := by
  -- The rounds so far are counted up, and each of them leaves one less to the rounds to come.
  induction k generalizing n with
  | zero => exact ⟨by rw [Nat.zero_add], hstart⟩
  | succ k ih =>
    obtain ⟨hrounds, hbefore⟩ := ih (n + 1) fun i h1 hk => hgo i h1 (Nat.le_succ_of_le hk)
    obtain ⟨t, htime, hlate, hgo⟩ := hgo (k + 1) (Nat.succ_pos k) le_rfl
    refine ⟨?_, (isBefore_of_not_stopsAt htime hgo).1⟩
    rw [Nat.succ_add_eq_add_succ, hrounds, rounds_polled_succ hbefore htime hlate hgo]

/-! ## The end of a watch -/

/-- How a watch over a simulated process ends, and what is left of the process. -/
inductive Result (c : Setup) : Verdict Leftovers → Simulation ℚ → Prop
  | /-- The process has ended when it would be stopped, if it would be. -/
    returned {s : Simulation ℚ} (hend : ∀ K t, c.IsFirst K t → c.endsAt ≤ t)
      (hclock : s.clock = max c.start c.endsAt) (hkilled : s.killed = false) :
      Result c (.finished c.leftovers) s
  | /-- The process is killed at the first time that stops it. -/
    stopped {s : Simulation ℚ} {K : ℕ} {t : ℚ} (hfirst : c.IsFirst K t) (hlate : t < c.endsAt)
      (hclock : s.clock = t) (hkilled : s.killed = true) :
      Result c (if c.deadline = some t then .timedOut c.leftovers else .cancelled c.leftovers) s

/-- The round in which the process ends. -/
theorem rounds_polled_of_le (hbefore : c.IsBefore k) (htime : c.time (k + 1) = some t)
    (hend : c.endsAt ≤ t) :
    rounds Simulation.machine c.canStop c.deadline (n + 1) (c.polled k) =
      (some (.finished c.leftovers),
        { c.outlasted k t with clock := max (c.start + k / 10) c.endsAt }) :=
  rounds_of_finished (roundLength_polled hbefore htime) (wait_polled_of_le hend)

/-- The round after which the process is killed. -/
theorem rounds_polled_of_stopsAt (hbefore : c.IsBefore k) (hlate : t < c.endsAt)
    (hstops : c.StopsAt (k + 1) t) :
    rounds Simulation.machine c.canStop c.deadline (n + 1) (c.polled k) =
      (some (if c.deadline = some t then .timedOut c.leftovers else .cancelled c.leftovers),
        { c.outlasted k t with killed := true }) := by
  have hoverdue := isOverdue_outlasted hstops.1
  have hlength := roundLength_polled hbefore hstops.1
  by_cases hd : c.deadline = some t
  · rw [decide_eq_true hd] at hoverdue
    rw [if_pos hd]
    exact rounds_of_overdue hlength (wait_polled_of_lt hlate) hoverdue rfl
  · rw [decide_eq_false hd] at hoverdue
    rw [if_neg hd]
    have hstopped := isStopped_outlasted (c := c) (k := k) (t := t)
    rw [decide_eq_true (hstops.2.resolve_left hd)] at hstopped
    exact rounds_of_stopped hlength (wait_polled_of_lt hlate) hoverdue hstopped rfl

/-- A watch that looks at its clock ends. -/
theorem exists_over (htime : ∀ k, ∃ t, c.time k = some t) :
    ∃ k, 1 ≤ k ∧ ∃ t, c.time k = some t ∧ (c.endsAt ≤ t ∨ c.StopsAt k t) := by
  let n := ⌈10 * (c.endsAt - c.start)⌉₊
  have hn : 10 * (c.endsAt - c.start) ≤ n := Nat.le_ceil _
  obtain ⟨t, ht⟩ := htime (n + 1)
  refine ⟨n + 1, Nat.succ_pos n, t, ht, ?_⟩
  -- If it went on, that many tenths of a second would have passed, and the process have ended.
  by_contra hgo
  rw [not_or, not_le] at hgo
  have hclock := (isBefore_of_not_stopsAt ht hgo.2).2
  push_cast at hclock
  linarith [hgo.1]

/-- A watch that does not look at its clock waits until the process ends. -/
theorem ends_of_unlimited (hstop : c.canStop = false) (hd : c.deadline = none) :
    c.Ends 1 (.finished c.leftovers)
      { c.process with waits := [none], clock := max c.start c.endsAt } := by
  intro most hmost
  obtain ⟨n, rfl⟩ := Nat.exists_eq_add_of_le' hmost
  have hlength : roundLength Simulation.machine c.canStop c.deadline (c.polled 0) =
      (none, c.polled 0) := by
    rw [hd, hstop]
    rfl
  rw [watch_process, rounds_of_finished hlength rfl, later_rat]
  show (_, { c.process with
    waits := [none], clock := max (c.start + ((0 : ℕ) : ℚ) / 10) c.endsAt }) = _
  rw [Nat.cast_zero, zero_div, add_zero]
  rfl

/-- After rounds in which the process went on, its end is still to come or no time has passed. -/
theorem max_polled (hgo : ∀ i, 1 ≤ i → i ≤ k → c.GoesOn i) :
    max (c.start + k / 10) c.endsAt = max c.start c.endsAt := by
  obtain rfl | hk := Nat.eq_zero_or_pos k
  · simp
  · obtain ⟨t, htime, hlate, hgo⟩ := hgo k hk le_rfl
    have ht : t = c.start + k / 10 := (isBefore_of_not_stopsAt htime hgo).2
    have hpos : (0 : ℚ) ≤ k / 10 := by positivity
    rw [max_eq_right (by linarith), max_eq_right (by linarith)]

/-- In the first round that ends the process or stops it, the watch ends. -/
theorem exists_result_of_over (hstart : c.IsBefore 0) (hgo : ∀ i, 1 ≤ i → i ≤ k → c.GoesOn i)
    (htime : c.time (k + 1) = some t) (hover : c.endsAt ≤ t ∨ c.StopsAt (k + 1) t) :
    ∃ v s, c.Ends (k + 1) v s ∧ s.waits.length = k + 1 ∧ c.Result v s := by
  -- Nothing stopped the process in an earlier round, so a first such round is not before this one.
  have hleast (K : ℕ) (t' : ℚ) (h1 : 1 ≤ K) (hK : K < k + 1) : ¬ c.StopsAt K t' := by
    obtain ⟨t₁, ht₁, -, hnot⟩ := hgo K h1 (Nat.le_of_lt_succ hK)
    rintro ⟨ht', hstops⟩
    obtain rfl : t₁ = t' := Option.some.inj (ht₁.symm.trans ht')
    exact hnot ⟨ht', hstops⟩
  have hlength : (c.outlasted k t).waits.length = k + 1 := by simp [outlasted]
  have hrounds (n : ℕ) : watch Simulation.machine c.canStop c.timeout (n + (k + 1)) c.process =
      rounds Simulation.machine c.canStop c.deadline (n + 1) (c.polled k) := by
    rw [watch_process, ← (rounds_polled hstart (n + 1) hgo).1]
    congr 1
    omega
  have hbefore := (rounds_polled hstart 0 hgo).2
  by_cases hend : c.endsAt ≤ t
  · refine ⟨_, { c.outlasted k t with clock := max (c.start + k / 10) c.endsAt },
      fun most hmost => ?_, hlength, .returned ?_ (max_polled hgo) rfl⟩
    · obtain ⟨n, rfl⟩ := Nat.exists_eq_add_of_le' hmost
      rw [hrounds, rounds_polled_of_le hbefore htime hend]
    · intro K t' hfirst
      have hK : k + 1 ≤ K := not_lt.mp fun hK => hleast K t' hfirst.one_le hK hfirst.stops
      exact hend.trans (time_mono hK htime hfirst.stops.1)
  · have hlate := not_le.mp hend
    have hstops := hover.resolve_left hend
    have hfirst : c.IsFirst (k + 1) t := ⟨Nat.succ_pos k, hstops, fun i t' => hleast i t'⟩
    refine ⟨_, { c.outlasted k t with killed := true }, fun most hmost => ?_, hlength,
      .stopped hfirst hlate rfl rfl⟩
    obtain ⟨n, rfl⟩ := Nat.exists_eq_add_of_le' hmost
    rw [hrounds, rounds_polled_of_stopsAt hbefore hlate hstops]

/-- A watch over a simulated process comes to an end, and no later than the process is stopped. -/
theorem exists_result (hstart : c.IsBefore 0) :
    ∃ n v s, c.Ends n v s ∧ s.waits.length = n ∧ c.Result v s ∧
      ∀ K t, 1 ≤ K → c.StopsAt K t → n ≤ K := by
  by_cases hnone : c.canStop = false ∧ c.deadline = none
  · refine ⟨1, _, _, ends_of_unlimited hnone.1 hnone.2, rfl, .returned ?_ rfl rfl,
      fun K t hK _ => hK⟩
    intro K t hfirst
    have htime := hfirst.stops.1
    rw [time_of_not_canStop hnone.1, hnone.2] at htime
    cases htime
  · have htime (k : ℕ) : ∃ t, c.time k = some t := by
      cases hstop : c.canStop with
      | false =>
        rw [time_of_not_canStop hstop]
        exact Option.ne_none_iff_exists'.mp fun hd => hnone ⟨hstop, hd⟩
      | true => exact (exists_time hstop k).imp fun _ => And.left
    classical
    have hover := exists_over htime
    -- The watch ends in the first round that ends anything.
    obtain ⟨hpos, t, ht, hend⟩ := Nat.find_spec hover
    have hgo (i : ℕ) (h1 : 1 ≤ i) (hi : i < Nat.find hover) : c.GoesOn i := by
      obtain ⟨t', ht'⟩ := htime i
      have hnot := fun h => Nat.find_min hover hi ⟨h1, t', ht', h⟩
      exact ⟨t', ht', not_le.mp fun h => hnot (.inl h), fun h => hnot (.inr h)⟩
    have hleast (K : ℕ) (t' : ℚ) (hK : 1 ≤ K) (hstops : c.StopsAt K t') : Nat.find hover ≤ K :=
      Nat.find_min' hover ⟨hK, t', hstops.1, .inr hstops⟩
    generalize Nat.find hover = N at *
    obtain ⟨k, rfl⟩ := Nat.exists_eq_add_of_le' hpos
    obtain ⟨v, s, hends, hlength, hresult⟩ := exists_result_of_over hstart
      (fun i h1 hi => hgo i h1 (Nat.lt_succ_of_le hi)) ht hend
    exact ⟨k + 1, v, s, hends, hlength, hresult, hleast⟩

/-! ## The times that stop a process -/

/-- There is only one first time that stops a process. -/
theorem IsFirst.unique {K K' : ℕ} {t t' : ℚ} (h : c.IsFirst K t) (h' : c.IsFirst K' t') :
    K = K' ∧ t = t' := by
  obtain hlt | rfl | hlt := lt_trichotomy K K'
  · exact absurd h.stops (h'.least K t h.one_le hlt)
  · exact ⟨rfl, Option.some.inj (h.stops.1.symm.trans h'.stops.1)⟩
  · exact absurd h'.stops (h.least K' t' h'.one_le hlt)

/-- A process that is stopped at some time is stopped at a first time. -/
theorem exists_first (hpos : 1 ≤ k) (hstops : c.StopsAt k t) :
    ∃ K t', c.IsFirst K t' ∧ K ≤ k ∧ t' ≤ t := by
  classical
  have hex : ∃ K, 1 ≤ K ∧ ∃ t', c.StopsAt K t' := ⟨k, hpos, t, hstops⟩
  obtain ⟨hone, t', ht'⟩ := Nat.find_spec hex
  have hle : Nat.find hex ≤ k := Nat.find_min' hex ⟨hpos, t, hstops⟩
  refine ⟨Nat.find hex, t', ⟨hone, ht', fun i t₁ h1 hi h => ?_⟩, hle,
    time_mono hle ht'.1 hstops.1⟩
  exact Nat.find_min hex hi ⟨h1, t₁, h⟩

/-- By the round whose number is ten times the timeout, a process is at its deadline. -/
theorem stopsAt_ceil {T : ℚ} (hstop : c.canStop = true) (hT : c.timeout = some T) :
    c.StopsAt ⌈10 * T⌉₊ (c.start + T) := by
  have hd : c.deadline = some (c.start + T) := by rw [deadline, hT, Option.map_some]
  have hceil : 10 * T ≤ ⌈10 * T⌉₊ := Nat.le_ceil _
  refine ⟨?_, .inl hd⟩
  rw [time_of_deadline hstop hd, min_eq_right (by linarith)]

/-- A process for which a stop is requested is stopped within a tenth of a second of that, or of its
start. -/
theorem exists_stopsAt {stop : ℚ} (hstop : c.canStop = true) (hset : c.stopsAt = some stop) :
    ∃ k t, 1 ≤ k ∧ c.StopsAt k t ∧ t ≤ max stop c.start + 1 / 10 := by
  obtain ⟨k, hpos, hreached, hclock⟩ : ∃ k : ℕ, 1 ≤ k ∧ stop ≤ c.start + k / 10 ∧
      c.start + k / 10 ≤ max stop c.start + 1 / 10 := by
    obtain hle | hlt := le_or_gt stop c.start
    · refine ⟨1, le_rfl, ?_, ?_⟩
      · rw [Nat.cast_one]
        linarith
      · rw [Nat.cast_one, max_eq_right hle]
    · have hx : 0 < 10 * (stop - c.start) := by linarith
      have hceil := Nat.le_ceil (10 * (stop - c.start))
      have hceil' := Nat.ceil_lt_add_one hx.le
      refine ⟨⌈10 * (stop - c.start)⌉₊, Nat.ceil_pos.mpr hx, by linarith, ?_⟩
      rw [max_eq_left hlt.le]
      linarith
  obtain ⟨t, ht, hle⟩ := exists_time hstop k
  refine ⟨k, t, hpos, ?_⟩
  by_cases hstops : c.StopsAt k t
  · exact ⟨hstops, hle.trans hclock⟩
  · -- A time that stops nothing is that tenth of a second, which would find the stop requested.
    have hk := (isBefore_of_not_stopsAt ht hstops).2
    rw [← hk] at hreached
    exact absurd ⟨ht, .inr ⟨hstop, stop, hset, hreached⟩⟩ hstops

/-- A process is stopped by its deadline. -/
theorem exists_stopsAt_deadline {T : ℚ} (hT : c.timeout = some T) (hpos : 0 < T) :
    ∃ k, 1 ≤ k ∧ c.StopsAt k (c.start + T) := by
  cases hstop : c.canStop with
  | false =>
    have hd : c.deadline = some (c.start + T) := by rw [deadline, hT, Option.map_some]
    exact ⟨1, le_rfl, (time_of_not_canStop hstop).trans hd, .inl hd⟩
  | true =>
    have hceil : 0 < 10 * T := by linarith
    exact ⟨⌈10 * T⌉₊, Nat.ceil_pos.mpr hceil, stopsAt_ceil hstop hT⟩

/-! ## Runs of a command -/

/-- What the run of a command over a simulated process comes to: its outcome and what is left of the
process. -/
structure Foretold (c : Setup) (command : List String) (shown : Option Float)
    (outcome : Except Fault RunResult) (s : Simulation ℚ) : Prop where
  /-- It gives a result just if the process has ended when it would first be stopped. -/
  returns_iff : (∃ result, outcome = .ok result) ↔ ∀ K t, c.IsFirst K t → c.endsAt ≤ t
  /-- The result is that of a process which was not killed. -/
  returned : ∀ result, outcome = .ok result → s.killed = false ∧
    result = ⟨command, c.leftovers.exitCode, c.leftovers.stdout.decode, c.leftovers.stderr.decode⟩
  /-- A process that has not ended by then is killed at that very time, and the reason is the
  deadline if that is the time. -/
  stopped : ∀ K t, c.IsFirst K t → t < c.endsAt → s.killed = true ∧ s.clock = t ∧
    outcome = .error (.run
      ⟨if c.deadline = some t then .timedOut (shown.getD Decimal.infinity) else .cancelled, command,
        -1, c.leftovers.stdout.decode, c.leftovers.stderr.decode⟩)
  /-- With a timeout and a stop that can be requested there are at most ten waits a second. -/
  bounded : ∀ T, c.timeout = some T → c.canStop = true → s.waits.length ≤ ⌈10 * T⌉₊
  /-- Once a stop is requested and the process was started, a process that does not end within a
  tenth of a second is killed by then. -/
  prompt : ∀ stop, c.canStop = true → c.stopsAt = some stop →
    (s.killed = true → s.clock ≤ max stop c.start + 1 / 10) ∧
      (max stop c.start + 1 / 10 < c.endsAt → s.killed = true)

/-- What the run of a command comes to by the way the watch over its process ends. -/
theorem Result.foretold {v : Verdict Leftovers} {s : Simulation ℚ} (h : c.Result v s)
    (hfirst : ∀ K t, 1 ≤ K → c.StopsAt K t → s.waits.length ≤ K)
    (htimeout : ∀ T, c.timeout = some T → 0 < T) (command : List String) (shown : Option Float) :
    c.Foretold command shown (runOutcome command shown v) s := by
  have hbounded (T : ℚ) (hT : c.timeout = some T) (hstop : c.canStop = true) :
      s.waits.length ≤ ⌈10 * T⌉₊ := by
    have hpos : 0 < 10 * T := by linarith [htimeout T hT]
    exact hfirst _ _ (Nat.ceil_pos.mpr hpos) (stopsAt_ceil hstop hT)
  cases h with
  | returned hend hclock hkilled =>
    -- A round in which it had been given up would have begun after the process ended.
    have hnot (K : ℕ) (t : ℚ) (hfirst : c.IsFirst K t) (hlate : t < c.endsAt) : False :=
      absurd (hend K t hfirst) (not_le.mpr hlate)
    refine ⟨iff_of_true ⟨_, rfl⟩ hend, ?_, fun K t hf hlate => (hnot K t hf hlate).elim, hbounded,
      fun stop hstop hset => ⟨fun h => ?_, fun hlate => ?_⟩⟩
    · rintro _ ⟨⟩
      exact ⟨hkilled, rfl⟩
    · rw [hkilled] at h
      cases h
    · obtain ⟨k, t, hpos, hstops, hle⟩ := exists_stopsAt hstop hset
      obtain ⟨K, t', hfirst, -, ht'⟩ := exists_first hpos hstops
      exact (hnot K t' hfirst (lt_of_le_of_lt (ht'.trans hle) hlate)).elim
  | @stopped s K t hf hlate hclock hkilled =>
    have hrun : runOutcome command shown
        (if c.deadline = some t then .timedOut c.leftovers else .cancelled c.leftovers) =
        .error (.run
          ⟨if c.deadline = some t then .timedOut (shown.getD Decimal.infinity) else .cancelled,
            command, -1, c.leftovers.stdout.decode, c.leftovers.stderr.decode⟩) := by
      split
      · rfl
      · rfl
    rw [hrun]
    refine ⟨iff_of_false ?_ fun hend => absurd (hend K t hf) (not_le.mpr hlate), nofun, ?_,
      hbounded, fun stop hstop hset => ⟨fun _ => ?_, fun _ => hkilled⟩⟩
    · rintro ⟨_, h⟩
      cases h
    · intro K' t' hf' _
      obtain ⟨-, rfl⟩ := hf.unique hf'
      exact ⟨hkilled, hclock, rfl⟩
    · obtain ⟨k, t₁, hpos, hstops, hle⟩ := exists_stopsAt hstop hset
      obtain ⟨K', t', hf', -, ht'⟩ := exists_first hpos hstops
      obtain ⟨-, rfl⟩ := hf.unique hf'
      rw [hclock]
      exact ht'.trans hle

/-- How a watch ends if no stop is ever requested: only the deadline matters. -/
theorem Result.of_never {v : Verdict Leftovers} {s : Simulation ℚ} (h : c.Result v s)
    (htimeout : ∀ T, c.timeout = some T → 0 < T) (hnever : ∀ t, ¬ c.IsSet t) :
    (∀ d, c.deadline = some d → c.endsAt ≤ d) ∧
        (v, s.clock, s.killed) = (.finished c.leftovers, max c.start c.endsAt, false) ∨
      ∃ d, c.deadline = some d ∧ d < c.endsAt ∧
        (v, s.clock, s.killed) = (.timedOut c.leftovers, d, true) := by
  cases h with
  | returned hend hclock hkilled =>
    refine .inl ⟨fun d hd => ?_, by rw [hclock, hkilled]⟩
    obtain ⟨T, hT, rfl⟩ := Option.map_eq_some_iff.mp hd
    obtain ⟨k, hpos, hstops⟩ := exists_stopsAt_deadline hT (htimeout T hT)
    obtain ⟨K, t, hfirst, -, ht⟩ := exists_first hpos hstops
    exact (hend K t hfirst).trans ht
  | @stopped s K t hfirst hlate hclock hkilled =>
    have hd : c.deadline = some t := hfirst.stops.2.resolve_right (hnever t)
    refine .inr ⟨t, hd, hlate, ?_⟩
    rw [if_pos hd, hclock, hkilled]

/-- The same process, and a watch over it for which no stop can be requested. -/
def unstoppable (c : Setup) : Setup := { c with canStop := false }

/-- If a stop is never requested, it does not matter whether one can be. -/
theorem Result.unstoppable {v v' : Verdict Leftovers} {s s' : Simulation ℚ}
    (h : c.Result v s) (h' : c.unstoppable.Result v' s')
    (htimeout : ∀ T, c.timeout = some T → 0 < T) (hnever : c.stopsAt = none) :
    (v', s'.clock, s'.killed) = (v, s.clock, s.killed) := by
  have hset (t : ℚ) : ¬ c.IsSet t := by
    rintro ⟨-, stop, hstop, -⟩
    rw [hnever] at hstop
    cases hstop
  have hset' (t : ℚ) : ¬ c.unstoppable.IsSet t := fun h => Bool.false_ne_true h.1
  -- Both watches have one deadline, so they cannot end in different ways.
  obtain ⟨hend, h⟩ | ⟨d, hd, hlate, h⟩ := h.of_never htimeout hset
  · obtain ⟨-, h'⟩ | ⟨d', hd', hlate', -⟩ := h'.of_never htimeout hset'
    · exact h'.trans h.symm
    · exact absurd (hend d' hd') (not_le.mpr hlate')
  · obtain ⟨hend', -⟩ | ⟨d', hd', -, h'⟩ := h'.of_never htimeout hset'
    · exact absurd (hend' d hd) (not_le.mpr hlate)
    · obtain rfl : d = d' := Option.some.inj (hd.symm.trans hd')
      exact h'.trans h.symm

/-- Before the first round, a process with a positive timeout has not reached its deadline. -/
theorem isBefore_zero (htimeout : ∀ T, c.timeout = some T → 0 < T) : c.IsBefore 0 := by
  intro d hd
  obtain ⟨T, hT, rfl⟩ := Option.map_eq_some_iff.mp hd
  rw [Nat.cast_zero, zero_div, add_zero]
  exact lt_add_of_pos_right _ (htimeout T hT)

/-- The run of a command over a simulated process comes to an end, and comes to what was foretold.
If a stop is never requested, it ends as if none could be. -/
theorem exists_foretold (c : Setup) (command : List String) (shown : Option Float)
    (htimeout : ∀ T, c.timeout = some T → 0 < T) :
    ∃ n v s, c.Ends n v s ∧ s.waits.length = n ∧
      c.Foretold command shown (runOutcome command shown v) s ∧
      (c.stopsAt = none → ∃ n' s', c.unstoppable.Ends n' v s' ∧ s'.clock = s.clock ∧
        s'.killed = s.killed) := by
  obtain ⟨n, v, s, hends, rfl, hresult, hfirst⟩ := exists_result (isBefore_zero htimeout)
  refine ⟨_, v, s, hends, rfl, hresult.foretold hfirst htimeout command shown, fun hnever => ?_⟩
  obtain ⟨n', v', s', hends', -, hresult', -⟩ :=
    exists_result (c := c.unstoppable) (isBefore_zero htimeout)
  have hsame := hresult.unstoppable hresult' htimeout hnever
  simp only [Prod.mk.injEq] at hsame
  obtain ⟨rfl, hclock, hkilled⟩ := hsame
  exact ⟨n', s', hends', hclock, hkilled⟩

/-- A process that takes ten seconds and may take half a second; a stop is requested after a quarter
of a second. -/
def slow : Setup where
  start := 0
  runsFor := 10
  timeout := some (1 / 2)
  canStop := true
  stopsAt := some (1 / 4)
  leftovers := firstLine

/-- The watch over such a process looks at its clock every tenth of a second up to the deadline. -/
theorem time_slow {k : ℕ} (hk : k ≤ 5) : slow.time k = some ((k : ℚ) / 10) := by
  have hle : (k : ℚ) ≤ 5 := by exact_mod_cast hk
  have hd : slow.deadline = some (0 + 1 / 2) := rfl
  rw [time_of_deadline rfl hd]
  show some (min (0 + (k : ℚ) / 10) (0 + 1 / 2)) = _
  rw [zero_add, zero_add, min_eq_left (by linarith)]

/-- Such a process is first stopped after three tenths of a second. -/
theorem isFirst_slow : slow.IsFirst 3 (3 / 10) where
  one_le := by decide
  stops := ⟨time_slow (k := 3) (by decide), .inr ⟨rfl, 1 / 4, rfl, by norm_num⟩⟩
  least k t h1 hk hstops := by
    have htime := time_slow (k := k) (by omega)
    obtain rfl : (k : ℚ) / 10 = t := Option.some.inj (htime.symm.trans hstops.1)
    have hle : (k : ℚ) ≤ 2 := by exact_mod_cast Nat.le_of_lt_succ hk
    obtain ⟨-, hd | ⟨-, stop, hstop, hreached⟩⟩ := hstops
    · have hd : (0 : ℚ) + 1 / 2 = (k : ℚ) / 10 := Option.some.inj hd
      linarith
    · obtain rfl : 1 / 4 = stop := Option.some.inj hstop
      linarith

/-- The run of such a process ends after at most five waits, with the process killed after three
tenths of a second since a stop was requested. -/
theorem exists_foretold_slow :
    (∀ T, slow.timeout = some T → 0 < T) ∧ ∃ n v s, slow.Ends n v s ∧ s.waits.length = n ∧ n ≤ 5 ∧
      s.killed = true ∧ s.clock = 3 / 10 ∧
      runOutcome ["nvidia-smi"] (some 0.5) v =
        .error (.run ⟨.cancelled, ["nvidia-smi"], -1, "uuid\n", ""⟩) := by
  have htimeout : ∀ T, slow.timeout = some T → 0 < T := by
    rintro _ ⟨⟩
    norm_num
  obtain ⟨n, v, s, hends, hlength, hrun, -⟩ :=
    exists_foretold slow ["nvidia-smi"] (some 0.5) htimeout
  have hlate : (3 / 10 : ℚ) < slow.endsAt := by
    show (3 / 10 : ℚ) < 0 + 10
    norm_num
  have hd : slow.deadline ≠ some (3 / 10) := by
    intro hd
    have hd : (0 : ℚ) + 1 / 2 = 3 / 10 := Option.some.inj hd
    norm_num at hd
  obtain ⟨hkilled, hclock, houtcome⟩ := hrun.stopped 3 (3 / 10) isFirst_slow hlate
  rw [if_neg hd] at houtcome
  have hceil : ⌈(10 * (1 / 2) : ℚ)⌉₊ = 5 := by norm_num
  have hbounded := hrun.bounded (1 / 2) rfl rfl
  rw [hceil, hlength] at hbounded
  exact ⟨htimeout, n, v, s, hends, hlength, hbounded, hkilled, hclock, houtcome⟩

end Setup

end GpuMetrics.Supervision
