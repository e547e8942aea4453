import GpuMetrics.Command.Simulation
import GpuMetrics.Proofs.Clock

/-!
# What happens to a process that is watched over

A watch is recorded as the list of what it asked of its machine, with the answers. As long as the
process is waited for, the record only has waits that the process outlasted, and each of them is as
long as a round lasts (`Running`). Each question of a round is answered as it is without a record,
and keeps this (`roundLength_recorded`, `isOverdue_recorded`, `isStopped_recorded`). So by induction
over the rounds the record changes nothing about the watch, and it tells how a watch that comes to
an end ended (`rounds_recorded`, `watch_recorded`).

If the clock never goes back, this says what the run of a command keeps to (`safe_of_watch`): the
process is killed only for a reason that was there, and no wait is negative or longer than it may
be. The process is left running exactly if a wait for it or its kill raised trouble, which then
leaves `run_command` as it is. This happens: with a timeout that is infinite and no way to request a
stop, the wait is infinite too, and no system can count it (`safe_infiniteLimit`). Of the clock's
arithmetic all this takes no more than the laws that rounded sums have too.
-/

namespace GpuMetrics.Supervision

variable {ω τ ρ : Type}

/-! ## Records -/

/-- A question to a machine, with the answer. -/
inductive Exchange (τ ρ : Type)
  | /-- The clock was read. -/
    read (t : τ)
  | /-- The process was waited for, and ended or not, or the wait raised trouble. -/
    waited (limit : Option τ) (result : Except Trouble (Option ρ))
  | /-- It was looked whether a stop had been requested. -/
    asked (requested : Bool)
  | /-- The process was killed, or its kill raised trouble. -/
    killed (result : Except Trouble Unit)
  | /-- What the killed process left behind was taken, or that raised trouble. -/
    reaped (result : Except Trouble ρ)

/-- Whether the process is waited for further after the exchange. -/
def Exchange.GoesOn : Exchange τ ρ → Prop
  | .read _ | .waited _ (.ok none) | .asked _ => True
  | .waited _ (.ok (some _)) | .waited _ (.error _) | .killed _ | .reaped _ => False

/-- Whether the process has ended with the exchange. -/
def Exchange.endsProcess : Exchange τ ρ → Bool
  | .waited _ (.ok (some _)) | .killed (.ok ()) | .reaped _ => true
  | .read _ | .waited _ (.ok none) | .waited _ (.error _) | .asked _ | .killed (.error _) => false

/-- A record that leaves the process running. -/
def LeftRunning (log : List (Exchange τ ρ)) : Prop := ∀ e ∈ log, e.endsProcess = false

instance (log : List (Exchange τ ρ)) : Decidable (LeftRunning log) :=
  inferInstanceAs (Decidable (∀ e ∈ log, e.endsProcess = false))

/-- A record in which a wait for the process, or its kill, raised the trouble. -/
def RefusedWith (log : List (Exchange τ ρ)) (t : Trouble) : Prop :=
  (∃ limit, .waited limit (.error t) ∈ log) ∨ .killed (.error t) ∈ log

section Records

variable {front more : List (Exchange τ ρ)} {t : Trouble}

/-- A process that is waited for further is left running. -/
theorem leftRunning_of_goesOn (h : ∀ e ∈ front, e.GoesOn) : LeftRunning front := by
  intro e he
  have hon := h e he
  cases e with
  | read t => rfl
  | waited limit result =>
    rcases result with t | _ | left
    · cases hon
    · rfl
    · cases hon
  | asked requested => rfl
  | killed result => cases hon
  | reaped result => cases hon

/-- After a process was waited for, what follows tells whether it is left running. -/
theorem leftRunning_append_iff (h : ∀ e ∈ front, e.GoesOn) :
    LeftRunning (front ++ more) ↔ LeftRunning more :=
  List.forall_mem_append.trans (and_iff_right (leftRunning_of_goesOn h))

/-- While a process is waited for further no trouble was raised. -/
theorem not_refusedWith_of_goesOn (h : ∀ e ∈ front, e.GoesOn) : ¬ RefusedWith front t := by
  rintro (⟨limit, he⟩ | he)
  · exact h _ he
  · exact h _ he

/-- After a process was waited for, what follows tells which trouble was raised. -/
theorem refusedWith_append_iff (h : ∀ e ∈ front, e.GoesOn) :
    RefusedWith (front ++ more) t ↔ RefusedWith more t := by
  have happend : RefusedWith (front ++ more) t ↔ RefusedWith front t ∨ RefusedWith more t := by
    simp only [RefusedWith, List.mem_append, exists_or]
    exact or_or_or_comm
  rw [happend]
  exact or_iff_right (not_refusedWith_of_goesOn h)

end Records

/-- The readings of the clock in a record. -/
def readings (log : List (Exchange τ ρ)) : List τ :=
  log.filterMap fun
    | .read t => some t
    | _ => none

/-- The readings in a record are those that its exchanges with the clock gave. -/
@[simp]
theorem mem_readings {log : List (Exchange τ ρ)} {t : τ} : t ∈ readings log ↔ .read t ∈ log := by
  rw [readings, List.mem_filterMap]
  constructor
  · rintro ⟨e, he, ht⟩
    cases e with
    | read t' => cases ht; exact he
    | waited | asked | killed | reaped => cases ht
  · exact fun h => ⟨.read t, h, rfl⟩

/-- The readings of two records one behind the other. -/
theorem readings_append (log more : List (Exchange τ ρ)) :
    readings (log ++ more) = readings log ++ readings more :=
  List.filterMap_append

/-- A machine that also keeps a record, from the first question to the last. -/
def Machine.recorded (m : Machine ω τ ρ) : Machine (ω × List (Exchange τ ρ)) τ ρ where
  now w :=
    let (t, w') := m.now w.1
    (t, (w', w.2 ++ [Exchange.read t]))
  wait limit w :=
    let (result, w') := m.wait limit w.1
    (result, (w', w.2 ++ [Exchange.waited limit result]))
  stopRequested w :=
    let (requested, w') := m.stopRequested w.1
    (requested, (w', w.2 ++ [Exchange.asked requested]))
  kill w :=
    let (result, w') := m.kill w.1
    (result, (w', w.2 ++ [Exchange.killed result]))
  reap w :=
    let (result, w') := m.reap w.1
    (result, (w', w.2 ++ [Exchange.reaped result]))

/-- The record of a watch. -/
def record [Time τ] (m : Machine ω τ ρ) (canStop : Bool) (timeout : Option τ) (most : Nat)
    (w : ω) : List (Exchange τ ρ) :=
  (watch m.recorded canStop timeout most (w, [])).2.2

variable {m : Machine ω τ ρ}

/-- A read clock is recorded. -/
theorem Machine.recorded_now {t : τ} {w w' : ω} (h : m.now w = (t, w'))
    (log : List (Exchange τ ρ)) :
    m.recorded.now (w, log) = (t, (w', log ++ [Exchange.read t])) := by
  simp only [Machine.recorded, h]

/-- A wait is recorded. -/
theorem Machine.recorded_wait {limit : Option τ} {result : Except Trouble (Option ρ)} {w w' : ω}
    (h : m.wait limit w = (result, w')) (log : List (Exchange τ ρ)) :
    m.recorded.wait limit (w, log) = (result, (w', log ++ [Exchange.waited limit result])) := by
  simp only [Machine.recorded, h]

/-- A question for a stop is recorded. -/
theorem Machine.recorded_stopRequested {requested : Bool} {w w' : ω}
    (h : m.stopRequested w = (requested, w')) (log : List (Exchange τ ρ)) :
    m.recorded.stopRequested (w, log) = (requested, (w', log ++ [Exchange.asked requested])) := by
  simp only [Machine.recorded, h]

/-- How a process is put down: what is recorded of it, and what comes of it. -/
inductive PutDown : List (Exchange τ ρ) → Except Trouble ρ → Prop
  | /-- The process is killed, and what it left behind is taken. -/
    done (left : ρ) : PutDown [.killed (.ok ()), .reaped (.ok left)] (.ok left)
  | /-- The kill raises trouble. -/
    unkilled (t : Trouble) : PutDown [.killed (.error t)] (.error t)
  | /-- The process is killed, but what it left behind cannot be taken. -/
    unreaped (t : Trouble) : PutDown [.killed (.ok ()), .reaped (.error t)] (.error t)

/-- A kill and what follows it are recorded. -/
theorem putDown_recorded {result : Except Trouble ρ} {w w' : ω} (h : putDown m w = (result, w'))
    (log : List (Exchange τ ρ)) :
    ∃ more, putDown m.recorded (w, log) = (result, (w', log ++ more)) ∧ PutDown more result := by
  rcases hkill : m.kill w with ⟨t | ⟨⟩, w₁⟩
  · simp only [putDown, hkill] at h
    cases h
    refine ⟨_, ?_, .unkilled t⟩
    simp only [putDown, Machine.recorded, hkill]
  · rcases hreap : m.reap w₁ with ⟨reaped, w₂⟩
    simp only [putDown, hkill, hreap] at h
    cases h
    refine ⟨[.killed (.ok ()), .reaped result], ?_, ?_⟩
    · simp only [putDown, Machine.recorded, hkill, hreap, List.append_assoc, List.cons_append,
        List.nil_append]
    · cases result with
      | ok left => exact .done left
      | error t => exact .unreaped t

/-! ## The ways through a round -/

variable [Time τ] {canStop : Bool} {timeout deadline : Option τ}

section Ways

variable {n : Nat} {limit : Option τ} {left : ρ} {result : Except Trouble ρ} {t : Trouble}
  {w w₁ w₂ w₃ w₄ w₅ : ω}

/-- The process ends in the round. -/
theorem rounds_of_finished (hlength : roundLength m canStop deadline w = (limit, w₁))
    (hwait : m.wait limit w₁ = (.ok (some left), w₂)) :
    rounds m canStop deadline (n + 1) w = (some (.finished left), w₂) := by
  simp only [rounds, hlength, hwait]

/-- The wait of the round raises trouble. -/
theorem rounds_of_unwaited (hlength : roundLength m canStop deadline w = (limit, w₁))
    (hwait : m.wait limit w₁ = (.error t, w₂)) :
    rounds m canStop deadline (n + 1) w = (some (.abandoned t), w₂) := by
  simp only [rounds, hlength, hwait]

/-- The deadline passes in the round. -/
theorem rounds_of_overdue (hlength : roundLength m canStop deadline w = (limit, w₁))
    (hwait : m.wait limit w₁ = (.ok none, w₂)) (hoverdue : isOverdue m deadline w₂ = (true, w₃))
    (hdown : putDown m w₃ = (result, w₄)) :
    rounds m canStop deadline (n + 1) w = (some (verdictOf .timedOut result), w₄) := by
  simp only [rounds, hlength, hwait, hoverdue, hdown, if_true]

/-- A stop is requested by the end of the round. -/
theorem rounds_of_stopped (hlength : roundLength m canStop deadline w = (limit, w₁))
    (hwait : m.wait limit w₁ = (.ok none, w₂)) (hoverdue : isOverdue m deadline w₂ = (false, w₃))
    (hstopped : isStopped m canStop w₃ = (true, w₄)) (hdown : putDown m w₄ = (result, w₅)) :
    rounds m canStop deadline (n + 1) w = (some (verdictOf .cancelled result), w₅) := by
  simp only [rounds, hlength, hwait, hoverdue, hstopped, hdown, if_true, Bool.false_eq_true,
    if_false]

/-- The process is waited for once more. -/
theorem rounds_of_again (hlength : roundLength m canStop deadline w = (limit, w₁))
    (hwait : m.wait limit w₁ = (.ok none, w₂)) (hoverdue : isOverdue m deadline w₂ = (false, w₃))
    (hstopped : isStopped m canStop w₃ = (false, w₄)) :
    rounds m canStop deadline (n + 1) w = rounds m canStop deadline n w₄ := by
  simp only [rounds, hlength, hwait, hoverdue, hstopped, Bool.false_eq_true, if_false]

end Ways

/-! ## Records of a process that is waited for -/

/-- How long a round lasts after the questions that were recorded. With a deadline the clock was
read just before. -/
def IsLimit (canStop : Bool) (deadline : Option τ) (log : List (Exchange τ ρ))
    (limit : Option τ) : Prop :=
  match deadline with
  | none => limit = if canStop then some Time.pollInterval else none
  | some d => ∃ before t, log = before ++ [Exchange.read t] ∧
      limit = some (if canStop then shorter Time.pollInterval (remaining d t) else remaining d t)

/-- Whether all waits in a record were as long as a round lasts. -/
def KeepsLimits (canStop : Bool) (deadline : Option τ) (log : List (Exchange τ ρ)) : Prop :=
  ∀ front limit result back, log = front ++ .waited limit result :: back →
    IsLimit canStop deadline front limit

/-- A record of a process that is still waited for. -/
structure Running (start : List (Exchange τ ρ)) (canStop : Bool) (deadline : Option τ)
    (log : List (Exchange τ ρ)) : Prop where
  /-- The record goes on from where it started. -/
  begun : start <+: log
  /-- Nothing ended the wait for the process. -/
  goesOn : ∀ e ∈ log, e.GoesOn
  /-- The waits were as long as a round lasts. -/
  limits : KeepsLimits canStop deadline log

/-- A record in which the last reading has not reached the deadline, if there is one. -/
def IsEarly (deadline : Option τ) (log : List (Exchange τ ρ)) : Prop :=
  ∀ d, deadline = some d → ∃ before t, log = before ++ [Exchange.read t] ∧ Time.atMost d t = false

/-- A record in which the last reading has reached the deadline. -/
def IsLate (deadline : Option τ) (log : List (Exchange τ ρ)) : Prop :=
  ∃ d before t, deadline = some d ∧ log = before ++ [Exchange.read t] ∧ Time.atMost d t = true

/-- How a watch ends, with its record. -/
inductive Ended (start : List (Exchange τ ρ)) (canStop : Bool) (deadline : Option τ) :
    List (Exchange τ ρ) → Verdict ρ → Prop
  | finished {log : List (Exchange τ ρ)} {limit : Option τ} {left : ρ}
      (running : Running start canStop deadline log) (hlimit : IsLimit canStop deadline log limit) :
      Ended start canStop deadline (log ++ [Exchange.waited limit (.ok (some left))])
        (.finished left)
  | unwaited {log : List (Exchange τ ρ)} {limit : Option τ} {t : Trouble}
      (running : Running start canStop deadline log) (hlimit : IsLimit canStop deadline log limit) :
      Ended start canStop deadline (log ++ [Exchange.waited limit (.error t)]) (.abandoned t)
  | timedOut {log more : List (Exchange τ ρ)} {result : Except Trouble ρ}
      (running : Running start canStop deadline log) (late : IsLate deadline log)
      (down : PutDown more result) :
      Ended start canStop deadline (log ++ more) (verdictOf .timedOut result)
  | cancelled {log more : List (Exchange τ ρ)} {result : Except Trouble ρ}
      (running : Running start canStop deadline log) (early : IsEarly deadline log)
      (hstop : canStop = true) (down : PutDown more result) :
      Ended start canStop deadline (log ++ [Exchange.asked true] ++ more)
        (verdictOf .cancelled result)

/-- Waits keep to their limits if one more that does is recorded, or something else. -/
theorem KeepsLimits.snoc {log : List (Exchange τ ρ)} (h : KeepsLimits canStop deadline log)
    {e : Exchange τ ρ}
    (he : ∀ limit result, e = .waited limit result → IsLimit canStop deadline log limit) :
    KeepsLimits canStop deadline (log ++ [e]) := by
  intro front limit result back hlog
  obtain rfl | ⟨back', last, rfl⟩ := List.eq_nil_or_concat back
  · obtain ⟨hfront, hlast⟩ := List.append_inj' hlog rfl
    rw [← hfront]
    exact he limit result (List.cons.inj hlast).1
  · rw [List.concat_eq_append, ← List.cons_append, ← List.append_assoc] at hlog
    exact h _ _ _ _ (List.append_inj' hlog rfl).1

/-- A record of a process that is waited for goes on with an exchange after which it still is. -/
theorem Running.snoc {start log : List (Exchange τ ρ)} (h : Running start canStop deadline log)
    {e : Exchange τ ρ} (hon : e.GoesOn)
    (he : ∀ limit result, e = .waited limit result → IsLimit canStop deadline log limit) :
    Running start canStop deadline (log ++ [e]) where
  begun := h.begun.trans (List.prefix_append _ _)
  goesOn := by
    intro e' he'
    obtain he' | he' := List.mem_append.mp he'
    · exact h.goesOn e' he'
    · rw [List.mem_singleton.mp he']
      exact hon
  limits := h.limits.snoc he

/-- Nothing was recorded yet. -/
theorem Running.nil : Running (ρ := ρ) [] canStop deadline [] where
  begun := List.prefix_rfl
  goesOn e he := by cases he
  limits front limit result back hlog := by
    have hlength := congrArg List.length hlog
    rw [List.length_append] at hlength
    cases hlength

/-- A record of a process that is waited for can be gone on from. -/
theorem Running.refl {start log : List (Exchange τ ρ)} (h : Running start canStop deadline log) :
    Running log canStop deadline log where
  begun := List.prefix_rfl
  goesOn := h.goesOn
  limits := h.limits

section Questions

variable {start log : List (Exchange τ ρ)} {w w' : ω}

/-- After a reading the process is still waited for. -/
theorem Running.read (h : Running start canStop deadline log) (t : τ) :
    Running start canStop deadline (log ++ [Exchange.read t]) :=
  h.snoc trivial fun _ _ heq => by cases heq

/-- How long a round lasts is looked up with a record. -/
theorem roundLength_recorded {limit : Option τ} (h : Running start canStop deadline log)
    (hlength : roundLength m canStop deadline w = (limit, w')) :
    ∃ log', roundLength m.recorded canStop deadline (w, log) = (limit, (w', log')) ∧
      Running start canStop deadline log' ∧ IsLimit canStop deadline log' limit := by
  cases deadline with
  | none =>
    cases hlength
    exact ⟨log, rfl, h, rfl⟩
  | some d =>
    rcases hnow : m.now w with ⟨t, w₁⟩
    simp only [roundLength, hnow] at hlength
    cases hlength
    refine ⟨log ++ [Exchange.read t], ?_, h.read t, log, t, rfl, rfl⟩
    simp only [roundLength, Machine.recorded_now hnow]

/-- Whether the deadline has passed is looked up with a record. -/
theorem isOverdue_recorded {overdue : Bool} (h : Running start canStop deadline log)
    (hoverdue : isOverdue m deadline w = (overdue, w')) :
    ∃ log', isOverdue m.recorded deadline (w, log) = (overdue, (w', log')) ∧
      Running start canStop deadline log' ∧
      if overdue then IsLate deadline log' else IsEarly deadline log' := by
  cases deadline with
  | none =>
    cases hoverdue
    exact ⟨log, rfl, h, fun d hd => by cases hd⟩
  | some d =>
    rcases hnow : m.now w with ⟨t, w₁⟩
    simp only [isOverdue, hnow] at hoverdue
    cases hoverdue
    refine ⟨log ++ [Exchange.read t], ?_, h.read t, ?_⟩
    · simp only [isOverdue, Machine.recorded_now hnow]
    · split
      next hlate => exact ⟨d, log, t, rfl, rfl, hlate⟩
      next hlate =>
        intro d' hd
        cases hd
        exact ⟨log, t, rfl, Bool.not_eq_true _ ▸ hlate⟩

/-- Whether a stop has been requested is looked up with a record. -/
theorem isStopped_recorded {stopped : Bool} (h : Running start canStop deadline log)
    (hstopped : isStopped m canStop w = (stopped, w')) :
    ∃ log', isStopped m.recorded canStop (w, log) = (stopped, (w', log')) ∧
      if stopped then canStop = true ∧ log' = log ++ [Exchange.asked true]
      else Running start canStop deadline log' := by
  cases hstop : canStop with
  | false =>
    rw [hstop] at hstopped h
    cases hstopped
    exact ⟨log, rfl, h⟩
  | true =>
    rw [hstop] at h
    simp only [isStopped, hstop, if_true] at hstopped
    refine ⟨log ++ [Exchange.asked stopped], ?_, ?_⟩
    · simp only [isStopped, if_true, Machine.recorded_stopRequested hstopped]
    · cases stopped with
      | false => exact h.snoc trivial fun _ _ heq => by cases heq
      | true => exact ⟨rfl, rfl⟩

/-- The rounds of a watch go as they do without a record, and the record tells how they end. -/
theorem rounds_recorded (n : Nat) (w : ω) (h : Running start canStop deadline log) :
    ∃ log', rounds m.recorded canStop deadline n (w, log) =
        ((rounds m canStop deadline n w).1, ((rounds m canStop deadline n w).2, log')) ∧
      ∀ v, (rounds m canStop deadline n w).1 = some v → Ended start canStop deadline log' v := by
  induction n generalizing w log with
  | zero => exact ⟨log, rfl, fun v hv => by cases hv⟩
  | succ n ih =>
    rcases hlength : roundLength m canStop deadline w with ⟨limit, w₁⟩
    obtain ⟨log₁, hlength', hrunning₁, hlimit⟩ := roundLength_recorded h hlength
    rcases hwait : m.wait limit w₁ with ⟨t | _ | left, w₂⟩
    · have hwait' := Machine.recorded_wait hwait log₁
      rw [rounds_of_unwaited hlength hwait, rounds_of_unwaited hlength' hwait']
      refine ⟨_, rfl, fun v hv => ?_⟩
      cases hv
      exact .unwaited hrunning₁ hlimit
    · -- The process outlasts the wait, so the deadline is looked at first and a stop after it.
      have hwait' := Machine.recorded_wait hwait log₁
      have hrunning₂ :
          Running start canStop deadline (log₁ ++ [Exchange.waited limit (.ok none)]) :=
        hrunning₁.snoc trivial fun _ _ heq => by cases heq; exact hlimit
      rcases hoverdue : isOverdue m deadline w₂ with ⟨overdue, w₃⟩
      obtain ⟨log₃, hoverdue', hrunning₃, htime⟩ := isOverdue_recorded hrunning₂ hoverdue
      cases overdue with
      | true =>
        rcases hdown : putDown m w₃ with ⟨result, w₄⟩
        obtain ⟨more, hdown', hmore⟩ := putDown_recorded hdown log₃
        rw [rounds_of_overdue hlength hwait hoverdue hdown,
          rounds_of_overdue hlength' hwait' hoverdue' hdown']
        refine ⟨_, rfl, fun v hv => ?_⟩
        cases hv
        exact .timedOut hrunning₃ htime hmore
      | false =>
        rcases hstopped : isStopped m canStop w₃ with ⟨stopped, w₄⟩
        obtain ⟨log₄, hstopped', hstop⟩ := isStopped_recorded hrunning₃ hstopped
        cases stopped with
        | true =>
          obtain ⟨hcan, rfl⟩ := hstop
          rcases hdown : putDown m w₄ with ⟨result, w₅⟩
          obtain ⟨more, hdown', hmore⟩ := putDown_recorded hdown (log₃ ++ [Exchange.asked true])
          rw [rounds_of_stopped hlength hwait hoverdue hstopped hdown,
            rounds_of_stopped hlength' hwait' hoverdue' hstopped' hdown']
          refine ⟨_, rfl, fun v hv => ?_⟩
          cases hv
          exact .cancelled hrunning₃ htime hcan hmore
        | false =>
          rw [rounds_of_again hlength hwait hoverdue hstopped,
            rounds_of_again hlength' hwait' hoverdue' hstopped']
          exact ih w₄ hstop
    · have hwait' := Machine.recorded_wait hwait log₁
      rw [rounds_of_finished hlength hwait, rounds_of_finished hlength' hwait']
      refine ⟨_, rfl, fun v hv => ?_⟩
      cases hv
      exact .finished hrunning₁ hlimit

end Questions

/-! ## Watches -/

/-- The deadline that a record shows, which is the timeout after the first reading. -/
def deadlineOf (timeout : Option τ) : List (Exchange τ ρ) → Option τ
  | .read t :: _ => timeout.map (Time.add t)
  | _ => none

/-- A watch that ended goes on from where its record started. -/
theorem Ended.begun {start log : List (Exchange τ ρ)} {v : Verdict ρ}
    (h : Ended start canStop deadline log v) : start <+: log := by
  cases h with
  | finished running => exact running.begun.trans (List.prefix_append _ _)
  | unwaited running => exact running.begun.trans (List.prefix_append _ _)
  | timedOut running => exact running.begun.trans (List.prefix_append _ _)
  | cancelled running =>
    rw [List.append_assoc]
    exact running.begun.trans (List.prefix_append _ _)

/-- A record that starts with a reading shows the deadline after it. -/
theorem deadlineOf_of_prefix {t : τ} {log : List (Exchange τ ρ)} (h : [.read t] <+: log)
    (timeout : Option τ) : deadlineOf timeout log = timeout.map (Time.add t) := by
  obtain ⟨rest, rfl⟩ := h
  rfl

/-- Without a timeout a record shows no deadline. -/
theorem deadlineOf_none (log : List (Exchange τ ρ)) : deadlineOf (none : Option τ) log = none := by
  unfold deadlineOf
  split
  · rfl
  · rfl

/-- A watch goes as it does without a record, and the record tells how it ends. -/
theorem watch_recorded (m : Machine ω τ ρ) (canStop : Bool) (timeout : Option τ) (most : Nat)
    (w : ω) :
    watch m.recorded canStop timeout most (w, []) =
        ((watch m canStop timeout most w).1,
          ((watch m canStop timeout most w).2, record m canStop timeout most w)) ∧
      ∀ v, (watch m canStop timeout most w).1 = some v → ∃ start deadline,
        Ended start canStop deadline (record m canStop timeout most w) v ∧
          deadlineOf timeout (record m canStop timeout most w) = deadline ∧
          (timeout.isSome = true → deadline.isSome = true) := by
  cases timeout with
  | none =>
    have hstart : Running (ρ := ρ) [] canStop (none : Option τ) [] := .nil
    obtain ⟨log, hrounds, hended⟩ := rounds_recorded (m := m) most w hstart
    have hrecord : record m canStop none most w = log := by rw [record, watch, hrounds]
    rw [hrecord]
    exact ⟨hrounds, fun v hv => ⟨[], none, hended v hv, deadlineOf_none log, id⟩⟩
  | some limit =>
    rcases hnow : m.now w with ⟨t, w₁⟩
    have hstart : Running (ρ := ρ) [.read t] canStop (some (Time.add t limit)) [.read t] :=
      .refl (Running.nil |>.read t)
    obtain ⟨log, hrounds, hended⟩ := rounds_recorded (m := m) most w₁ hstart
    have hnow' : m.recorded.now (w, []) = (t, (w₁, [.read t])) := Machine.recorded_now hnow []
    have hrecord : record m canStop (some limit) most w = log := by
      rw [record, watch, hnow']
      exact congrArg (·.2.2) hrounds
    rw [hrecord, watch, watch, hnow, hnow']
    exact ⟨hrounds, fun v hv => ⟨[.read t], some (Time.add t limit), hended v hv,
      deadlineOf_of_prefix (hended v hv).begun (some limit), fun _ => rfl⟩⟩

/-! ## Safe runs -/

/-- What a wait keeps to after the questions that were recorded before it. -/
structure WaitKept (canStop : Bool) (deadline : Option τ) (front : List (Exchange τ ρ))
    (limit : Option τ) : Prop where
  /-- It has no limit only if there is no deadline and no stop can be requested. -/
  unlimited : limit = none ↔ deadline = none ∧ canStop = false
  /-- It is not negative. -/
  nonneg : ∀ l, limit = some l → Time.atMost Time.zero l = true
  /-- If a stop can be requested it is at most the poll interval. -/
  polls : canStop = true → ∀ l, limit = some l → Time.atMost l Time.pollInterval = true
  /-- If there is a deadline the clock was just read, and the wait is at most the time that is left
  after that reading, or no time at all. -/
  timely : ∀ d, deadline = some d → ∃ before t, front = before ++ [Exchange.read t] ∧
    ∀ l, limit = some l → Time.atMost l (Time.sub d t) = true ∨ Time.atMost l Time.zero = true

/-- Why a process is killed, in the words of the failure: a reading has just reached the deadline,
or a stop has just turned out to be requested and no reading has reached it. -/
inductive Due (shown : Option Float) (canStop : Bool) (deadline : Option τ) :
    List (Exchange τ ρ) → RunFailure.Cause → Prop
  | timedOut {front : List (Exchange τ ρ)} {d t : τ} (goesOn : ∀ e ∈ front, e.GoesOn)
      (hd : deadline = some d) (late : Time.atMost d t = true) :
      Due shown canStop deadline (front ++ [Exchange.read t])
        (.timedOut (shown.getD Decimal.infinity))
  | cancelled {front : List (Exchange τ ρ)} (goesOn : ∀ e ∈ front, e.GoesOn)
      (hstop : canStop = true)
      (early : ∀ d, deadline = some d → ∀ t ∈ readings front, Time.atMost d t = false) :
      Due shown canStop deadline (front ++ [Exchange.asked true]) .cancelled

/-- How the run of a command is over: what was asked of its process, and the outcome. -/
inductive Over (command : List String) (shown : Option Float) (canStop : Bool)
    (deadline : Option τ) : List (Exchange τ Leftovers) → Except Fault RunResult → Prop
  | /-- The process ended by itself, and was not killed. -/
    finished {front : List (Exchange τ Leftovers)} {limit : Option τ} {left : Leftovers}
      (goesOn : ∀ e ∈ front, e.GoesOn) :
      Over command shown canStop deadline (front ++ [Exchange.waited limit (.ok (some left))])
        (.ok ⟨command, left.exitCode, left.stdout.decode, left.stderr.decode⟩)
  | /-- The process was killed once, just after there was a reason for it, and reaped. -/
    killed {front : List (Exchange τ Leftovers)} {cause : RunFailure.Cause} {left : Leftovers}
      (due : Due shown canStop deadline front cause) :
      Over command shown canStop deadline (front ++ [.killed (.ok ()), .reaped (.ok left)])
        (.error (.run ⟨cause, command, -1, left.stdout.decode, left.stderr.decode⟩))
  | /-- A wait for the process raised trouble, and nothing was done after it. -/
    unwaited {front : List (Exchange τ Leftovers)} {limit : Option τ} {t : Trouble}
      (goesOn : ∀ e ∈ front, e.GoesOn) :
      Over command shown canStop deadline (front ++ [Exchange.waited limit (.error t)])
        (.error (.trouble t))
  | /-- There was a reason to kill the process, but the kill raised trouble. -/
    unkilled {front : List (Exchange τ Leftovers)} {cause : RunFailure.Cause} {t : Trouble}
      (due : Due shown canStop deadline front cause) :
      Over command shown canStop deadline (front ++ [.killed (.error t)]) (.error (.trouble t))
  | /-- The process was killed once for a reason, but reaping it raised trouble. -/
    unreaped {front : List (Exchange τ Leftovers)} {cause : RunFailure.Cause} {t : Trouble}
      (due : Due shown canStop deadline front cause) :
      Over command shown canStop deadline (front ++ [.killed (.ok ()), .reaped (.error t)])
        (.error (.trouble t))

/-- What the run of a command keeps to, told by the record of the watch over its process. -/
structure Safe (command : List String) (shown : Option Float) (canStop : Bool) (timeout : Option τ)
    (log : List (Exchange τ Leftovers)) (outcome : Except Fault RunResult) : Prop where
  /-- The process ended by itself or was killed for a reason and reaped, or trouble was raised in
  between. -/
  ending : Over command shown canStop (deadlineOf timeout log) log outcome
  /-- The process is left running exactly if a wait for it, or its kill, raised trouble. -/
  leftRunning_iff : LeftRunning log ↔ ∃ t, RefusedWith log t
  /-- Such trouble is passed on as it is. -/
  passedOn : ∀ t, RefusedWith log t → outcome = .error (.trouble t)
  /-- With a timeout there is a deadline. -/
  timed : timeout.isSome = true → (deadlineOf timeout log).isSome = true
  /-- With neither a timeout nor a way to request a stop the process is not killed. -/
  spared : timeout = none → canStop = false → ∀ result, .killed result ∉ log
  /-- The process is waited for in the way it should be. -/
  waits : ∀ front limit result back, log = front ++ .waited limit result :: back →
    WaitKept canStop (deadlineOf timeout log) front limit

section Due

variable {front : List (Exchange τ ρ)} {shown : Option Float} {cause : RunFailure.Cause}

/-- Until there is a reason to kill it, a process is waited for. -/
theorem Due.goesOn (h : Due shown canStop deadline front cause) : ∀ e ∈ front, e.GoesOn := by
  cases h with
  | timedOut hon => exact List.forall_mem_append.mpr ⟨hon, by simp [Exchange.GoesOn]⟩
  | cancelled hon => exact List.forall_mem_append.mpr ⟨hon, by simp [Exchange.GoesOn]⟩

/-- There is a reason to kill a process only with a deadline or a way to request a stop. -/
theorem Due.limited (h : Due shown canStop deadline front cause) :
    ¬ (deadline = none ∧ canStop = false) := by
  rintro ⟨hnone, hcannot⟩
  cases h with
  | timedOut _ hd => rw [hnone] at hd; cases hd
  | cancelled _ hstop => rw [hcannot] at hstop; cases hstop

end Due

section Over

variable {command : List String} {shown : Option Float} {log : List (Exchange τ Leftovers)}
  {outcome : Except Fault RunResult}

/-- The ways in which a process that is to be killed is put down are those in which the run is
over. -/
theorem Due.isOver {cause : RunFailure.Cause} {front more : List (Exchange τ Leftovers)}
    {result : Except Trouble Leftovers} (due : Due shown canStop deadline front cause)
    (down : PutDown more result) {reason : Leftovers → Verdict Leftovers}
    (hreason : ∀ left, runOutcome command shown (reason left) =
      .error (.run ⟨cause, command, -1, left.stdout.decode, left.stderr.decode⟩)) :
    Over command shown canStop deadline (front ++ more)
      (runOutcome command shown (verdictOf reason result)) := by
  cases down with
  | done left =>
    rw [verdictOf, hreason]
    exact .killed due
  | unkilled t => exact .unkilled due
  | unreaped t => exact .unreaped due

/-- The record of a run that is over is a front in which the process was waited for further, and
what came then. Only the latter can have left the process running, or have raised the trouble that
is the outcome. -/
theorem Over.split (h : Over command shown canStop deadline log outcome) :
    ∃ front more, (∀ e ∈ front, e.GoesOn) ∧ log = front ++ more ∧
      (LeftRunning more ↔ ∃ t, RefusedWith more t) ∧
      ∀ t, RefusedWith more t → outcome = .error (.trouble t) := by
  cases h with
  | finished goesOn | unwaited goesOn =>
    refine ⟨_, _, goesOn, rfl, ?_, ?_⟩
    · simp [LeftRunning, RefusedWith, Exchange.endsProcess]
    · simp [RefusedWith]
  | killed due | unkilled due | unreaped due =>
    refine ⟨_, _, due.goesOn, rfl, ?_, ?_⟩
    · simp [LeftRunning, RefusedWith, Exchange.endsProcess]
    · simp [RefusedWith]

/-- A process is left running exactly if a wait for it, or its kill, raised trouble. -/
theorem Over.leftRunning_iff (h : Over command shown canStop deadline log outcome) :
    LeftRunning log ↔ ∃ t, RefusedWith log t := by
  obtain ⟨front, more, goesOn, rfl, hleft, -⟩ := h.split
  simpa only [leftRunning_append_iff goesOn, refusedWith_append_iff goesOn] using hleft

/-- Trouble that a wait for the process, or its kill, raises is the outcome. -/
theorem Over.passedOn (h : Over command shown canStop deadline log outcome) {t : Trouble}
    (ht : RefusedWith log t) : outcome = .error (.trouble t) := by
  obtain ⟨front, more, goesOn, rfl, -, hpassed⟩ := h.split
  exact hpassed t ((refusedWith_append_iff goesOn).mp ht)

/-- A process is to be killed for a timeout only, or if a stop can be requested. -/
theorem Over.killed_notMem (h : Over command shown canStop deadline log outcome)
    (hdeadline : deadline = none) (hstop : canStop = false) (result : Except Trouble Unit) :
    .killed result ∉ log := by
  have hend {front : List (Exchange τ Leftovers)} (goesOn : ∀ e ∈ front, e.GoesOn)
      (limit : Option τ) (answer : Except Trouble (Option Leftovers)) :
      .killed result ∉ front ++ [Exchange.waited limit answer] := by
    intro hkilled
    obtain hkilled | hkilled := List.mem_append.mp hkilled
    · exact goesOn _ hkilled
    · simp at hkilled
  cases h with
  | finished goesOn => exact hend goesOn _ _
  | killed due => exact absurd ⟨hdeadline, hstop⟩ due.limited
  | unwaited goesOn => exact hend goesOn _ _
  | unkilled due => exact absurd ⟨hdeadline, hstop⟩ due.limited
  | unreaped due => exact absurd ⟨hdeadline, hstop⟩ due.limited

end Over

/-- What a wait with a limit has to keep to. -/
theorem WaitKept.of_some {front : List (Exchange τ ρ)} {l : τ}
    (hlimited : deadline = none → canStop = true)
    (hnonneg : Time.atMost Time.zero l = true)
    (hpolls : canStop = true → Time.atMost l Time.pollInterval = true)
    (htimely : ∀ d, deadline = some d → ∃ before t, front = before ++ [Exchange.read t] ∧
      (Time.atMost l (Time.sub d t) = true ∨ Time.atMost l Time.zero = true)) :
    WaitKept canStop deadline front (some l) where
  unlimited := by
    refine iff_of_false nofun fun ⟨hdeadline, hstop⟩ => ?_
    rw [hlimited hdeadline] at hstop
    cases hstop
  nonneg := by
    rintro _ ⟨⟩
    exact hnonneg
  polls := by
    rintro hstop _ ⟨⟩
    exact hpolls hstop
  timely := by
    intro d hd
    obtain ⟨before, t, hfront, hl⟩ := htimely d hd
    refine ⟨before, t, hfront, ?_⟩
    rintro _ ⟨⟩
    exact hl

/-- Waits keep to their limits if the process is put down after them. -/
theorem KeepsLimits.append_putDown {log more : List (Exchange τ ρ)} {result : Except Trouble ρ}
    (h : KeepsLimits canStop deadline log) (down : PutDown more result) :
    KeepsLimits canStop deadline (log ++ more) := by
  have hkilled (answer : Except Trouble Unit) :
      KeepsLimits canStop deadline (log ++ [Exchange.killed answer]) := h.snoc nofun
  have hreaped (answer : Except Trouble ρ) :
      KeepsLimits canStop deadline (log ++ [Exchange.killed (.ok ()), .reaped answer]) := by
    have hsnoc := (hkilled (.ok ())).snoc (e := .reaped answer) nofun
    rwa [List.append_assoc] at hsnoc
  cases down with
  | done left => exact hreaped _
  | unkilled t => exact hkilled _
  | unreaped t => exact hreaped _

/-- All waits of a watch that ended were as long as a round lasts. -/
theorem Ended.limits {start log : List (Exchange τ ρ)} {v : Verdict ρ}
    (h : Ended start canStop deadline log v) : KeepsLimits canStop deadline log := by
  cases h with
  | finished running hlimit =>
    exact running.limits.snoc fun _ _ heq => by cases heq; exact hlimit
  | unwaited running hlimit =>
    exact running.limits.snoc fun _ _ heq => by cases heq; exact hlimit
  | timedOut running _ down => exact running.limits.append_putDown down
  | cancelled running _ _ down =>
    exact (running.limits.snoc (e := .asked true) nofun).append_putDown down

section Safe

variable [LawfulTime τ] {start log front : List (Exchange τ ρ)} {d t : τ}

open LawfulTime

/-- Waits that are as long as a round lasts keep to their bounds, if the clock's readings and the
deadline are numbers. -/
theorem WaitKept.of_isLimit {limit : Option τ} (h : IsLimit canStop deadline front limit)
    (hdeadline : ∀ d, deadline = some d → IsNumber d)
    (hreadings : ∀ t ∈ readings front, IsReading t) : WaitKept canStop deadline front limit := by
  cases deadline with
  | none =>
    cases canStop with
    | false =>
      cases h
      exact ⟨iff_of_true rfl ⟨rfl, rfl⟩, nofun, nofun, nofun⟩
    | true =>
      cases h
      exact .of_some (fun _ => rfl) zero_le_pollInterval
        (fun _ => atMost_refl isNumber_pollInterval) nofun
  | some d =>
    -- The wait is what is left until the deadline, cut to the poll interval if a stop can come.
    have hd := hdeadline d rfl
    obtain ⟨before, t, rfl, rfl⟩ := h
    have ht : IsReading t := hreadings t (by simp)
    have hleft := isNumber_remaining hd ht
    cases canStop with
    | false =>
      refine .of_some nofun (zero_atMost_remaining hd ht) nofun ?_
      rintro _ ⟨⟩
      exact ⟨before, t, rfl, remaining_atMost hd ht⟩
    | true =>
      refine .of_some (fun _ => rfl) (zero_atMost_shorter hd ht)
        (fun _ => shorter_atMost_left isNumber_pollInterval _) ?_
      rintro _ ⟨⟩
      have hshorter : Time.atMost (shorter Time.pollInterval (remaining d t)) (remaining d t) =
          true := shorter_atMost_right isNumber_pollInterval hleft
      exact ⟨before, t, rfl, (remaining_atMost hd ht).imp (atMost_trans hshorter)
        (atMost_trans hshorter)⟩

/-- If the last reading has not reached the deadline, no reading before it has. -/
theorem IsEarly.not_reached (h : IsEarly deadline log)
    (horder : (readings log).Pairwise (Time.atMost · · = true)) :
    ∀ d, deadline = some d → ∀ t ∈ readings log, Time.atMost d t = false := by
  intro d hd t ht
  obtain ⟨before, last, rfl, hlast⟩ := h d hd
  rw [readings_append, List.pairwise_append] at horder
  rw [readings_append, List.mem_append] at ht
  obtain ht | ht := ht
  · have hle : Time.atMost t last = true := horder.2.2 t ht last (by simp)
    -- Had the earlier reading reached it, so would have the last one.
    by_contra hreached
    rw [atMost_trans (Bool.not_eq_false _ ▸ hreached) hle] at hlast
    cases hlast
  · obtain rfl : t = last := by simpa using ht
    exact hlast

/-- The ways in which a watch ends are those in which the run of a command is over. -/
theorem Ended.isOver {start log : List (Exchange τ Leftovers)} {v : Verdict Leftovers}
    (h : Ended start canStop deadline log v)
    (horder : (readings log).Pairwise (Time.atMost · · = true)) (command : List String)
    (shown : Option Float) :
    Over command shown canStop deadline log (runOutcome command shown v) := by
  cases h with
  | finished running => exact .finished running.goesOn
  | unwaited running => exact .unwaited running.goesOn
  | timedOut running late down =>
    obtain ⟨d, before, t, hd, rfl, hlate⟩ := late
    exact Due.isOver
      (.timedOut (fun e he => running.goesOn e (List.mem_append_left _ he)) hd hlate) down
      fun _ => rfl
  | cancelled running early hstop down =>
    -- Behind the last reading there are only the question and what the kill comes to.
    rw [List.append_assoc, readings_append, List.pairwise_append] at horder
    exact Due.isOver (.cancelled running.goesOn hstop (early.not_reached horder.1)) down
      fun _ => rfl

/-- The run of a command keeps to what it should, whatever the process does and refuses, whenever a
stop is requested and however the clock goes on and rounds, as long as it does not go back. The
process is left running if trouble was raised by a wait for it or by its kill, and only then. -/
theorem safe_of_watch {ω : Type} (m : Machine ω τ Leftovers) (command : List String)
    (shown : Option Float) (canStop : Bool) (timeout : Option τ) (most : Nat) (w : ω)
    {v : Verdict Leftovers} (hv : (watch m canStop timeout most w).1 = some v)
    (htimeout : ∀ limit, timeout = some limit → IsNumber limit)
    (hreadings : ∀ t ∈ readings (record m canStop timeout most w), IsReading t)
    (horder : (readings (record m canStop timeout most w)).Pairwise (Time.atMost · · = true)) :
    Safe command shown canStop timeout (record m canStop timeout most w)
      (runOutcome command shown v) := by
  obtain ⟨start, deadline, hended, hdeadline, htimed⟩ :=
    (watch_recorded m canStop timeout most w).2 v hv
  have hover := hended.isOver horder command shown
  -- The laws of the clock hold of numbers only, so the deadline has to be one.
  have hnumber : ∀ d, deadline = some d → IsNumber d := by
    rintro d rfl
    -- It is the timeout after the first reading, which are numbers both.
    generalize record m canStop timeout most w = log at *
    unfold deadlineOf at hdeadline
    split at hdeadline
    next t rest =>
      obtain ⟨limit, hlimit, rfl⟩ := Option.map_eq_some_iff.mp hdeadline
      exact isNumber_add (hreadings t (by simp)) (htimeout limit hlimit)
    next => cases hdeadline
  subst hdeadline
  exact {
    ending := hover
    leftRunning_iff := hover.leftRunning_iff
    passedOn := fun _ => hover.passedOn
    timed := htimed
    spared := fun hnone hstop => hover.killed_notMem (by rw [hnone, deadlineOf_none]) hstop
    waits := fun front limit result back hlog => by
      refine .of_isLimit (hended.limits front limit result back hlog) hnumber fun t ht => ?_
      refine hreadings t ?_
      rw [hlog, readings_append]
      exact List.mem_append_left _ ht }

end Safe

/-- What is left of a process that printed the first line of a table. -/
def firstLine : Leftovers := ⟨0, .text "uuid\n", .absent⟩

/-- A process that takes three seconds. No stop is requested. -/
def threeSeconds : Simulation Float := .start 0 3 none firstLine

/-- What is raised by a wait without an end that is given as a number of seconds. -/
def uncountable : Trouble := ⟨.overflow, "cannot convert float infinity to integer"⟩

/-- A simulated process that cannot be waited for an infinite time, but for ever. -/
def countingMachine : Machine (Simulation Float) Float Leftovers :=
  { Simulation.machine with
    wait := fun limit s =>
      if limit.any Float.isInf then (.error uncountable, s) else Simulation.machine.wait limit s }

/-- With an infinite timeout and no way to request a stop, the first wait for such a process raises
trouble, which is the outcome, and the process is left running. -/
theorem safe_infiniteLimit :
    (watch countingMachine false (some Decimal.infinity) 1 threeSeconds).1 =
        some (.abandoned uncountable) ∧
      Safe ["sleep", "3"] (some Decimal.infinity) false (some Decimal.infinity)
        (record countingMachine false (some Decimal.infinity) 1 threeSeconds)
        (.error (.trouble uncountable)) ∧
      LeftRunning (record countingMachine false (some Decimal.infinity) 1 threeSeconds) := by
  have hv : (watch countingMachine false (some Decimal.infinity) 1 threeSeconds).1 =
      some (.abandoned uncountable) := by decide +kernel
  have hlimit : Decimal.infinity.isNaN = false := by decide +kernel
  have hreadings : ∀ t ∈ readings (record countingMachine false (some Decimal.infinity) 1
      threeSeconds), t.isFinite = true := by decide +kernel
  have horder : (readings (record countingMachine false (some Decimal.infinity) 1
      threeSeconds)).Pairwise (Time.atMost · · = true) := by decide +kernel
  have hleft : LeftRunning (record countingMachine false (some Decimal.infinity) 1
      threeSeconds) := by decide +kernel
  refine ⟨hv, ?_, hleft⟩
  refine safe_of_watch countingMachine ["sleep", "3"] (some Decimal.infinity) false
    (some Decimal.infinity) 1 threeSeconds hv ?_ hreadings horder
  rintro _ ⟨⟩
  exact hlimit

end GpuMetrics.Supervision
