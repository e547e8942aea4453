import GpuMetrics.Command.Smi

/-!
# What the steps of a session do

A session is a function on sites, and `Session.on` applies it. Here each way of putting sessions
together gets its equation, and each step that touches the site gets the site after it, so that a
longer session is carried out by rewriting. `Smi.run_on` is the first such session: a run of the
tool asks the runner once, whatever comes of it.
-/

namespace GpuMetrics

namespace Session

variable {σ α β : Type} (site : Site σ)

/-! ## Putting sessions together -/

/-- A session that only gives a value. -/
@[simp] theorem on_pure (a : α) : (pure a : Session σ α).on site = (.ok a, site) := rfl

/-- A session that only ends in a fault. -/
@[simp] theorem on_throw (e : Fault) : (throw e : Session σ α).on site = (.error e, site) := rfl

/-- A session after another one starts on the site that the first one leaves, unless that one ends
in a fault. -/
theorem on_bind (x : Session σ α) (f : α → Session σ β) :
    (x >>= f).on site = match x.on site with
      | (.ok a, s) => (f a).on s
      | (.error e, s) => (.error e, s) := by
  -- A session is two layers, faults over sites; taking both apart leaves one result to look at.
  simp only [Session.on, ExceptT.run_bind, StateT.run_bind]
  rcases StateT.run (ExceptT.run x) site with ⟨_ | _, s⟩ <;> rfl

/-- A session after one that ends well. -/
theorem on_bind_ok {x : Session σ α} {a : α} {s : Site σ} (h : x.on site = (.ok a, s))
    (f : α → Session σ β) : (x >>= f).on site = (f a).on s := by
  rw [on_bind, h]

/-- A session after one that ends in a fault is not begun. -/
theorem on_bind_error {x : Session σ α} {e : Fault} {s : Site σ} (h : x.on site = (.error e, s))
    (f : α → Session σ β) : (x >>= f).on site = (.error e, s) := by
  rw [on_bind, h]

/-- Two sessions give a value exactly if the first gives one and the second gives it then. -/
theorem on_bind_eq_ok_iff {x : Session σ α} {f : α → Session σ β} {b : β} :
    ((x >>= f).on site).1 = .ok b ↔
      ∃ a, (x.on site).1 = .ok a ∧ ((f a).on (x.on site).2).1 = .ok b := by
  rw [on_bind]
  rcases x.on site with ⟨e | a, s⟩ <;> simp

/-- A calculation leaves the site as it is. -/
@[simp] theorem on_ofExcept (r : Except Fault α) :
    (ofExcept r : Session σ α).on site = (r, site) := by
  cases r <;> rfl

/-- The outcome of an attempt is the attempt's result, and never its fault. -/
@[simp] theorem on_attempt (x : Session σ α) :
    (attempt x).on site = (.ok (x.on site).1, (x.on site).2) := rfl

/-! ## Steps -/

/-- Looking changes nothing. -/
@[simp] theorem on_look (f : Site σ → α) : (look f).on site = (.ok (f site), site) := rfl

/-- Asking whether a stop was requested changes nothing. -/
@[simp] theorem on_isStopped :
    (isStopped : Session σ Bool).on site = (.ok site.stopped, site) := rfl

/-- A change changes the site. -/
@[simp] theorem on_change (f : Site σ → Site σ) : (change f).on site = (.ok (), f site) := rfl

/-- Setting the health changes nothing else. -/
@[simp] theorem on_setHealth (f : Health → Health) :
    (setHealth f).on site = (.ok (), { site with health := f site.health }) := rfl

/-- A record is put behind those before it. -/
@[simp] theorem on_log (r : Log.Record) :
    (log r).on site = (.ok (), { site with records := site.records ++ [r] }) := rfl

/-- Records are put behind those before them. -/
@[simp] theorem on_logAll (rs : List Log.Record) :
    (logAll rs).on site = (.ok (), { site with records := site.records ++ rs }) := rfl

/-- A message is put behind the records before it. -/
@[simp] theorem on_note (channel : String) (level : Log.Level) (message : String) :
    (note channel level message).on site =
      (.ok (), { site with records := site.records ++ [.plain channel level message] }) := rfl

/-- A request for a stop changes nothing else. -/
@[simp] theorem on_requestStop :
    (requestStop : Session σ Unit).on site = (.ok (), { site with stopped := true }) := rfl

/-! ## What a session keeps -/

section Keeps

variable {γ : Type} {view : Site σ → γ}

/-- A session that does not change what `view` shows of the site. -/
def Keeps (view : Site σ → γ) (x : Session σ α) : Prop := ∀ site, view (x.on site).2 = view site

/-- A session that only gives a value keeps everything. -/
theorem keeps_pure (a : α) : (pure a : Session σ α).Keeps view := fun _ => rfl

/-- A session that only ends in a fault keeps everything. -/
theorem keeps_throw (e : Fault) : (throw e : Session σ α).Keeps view := fun _ => rfl

/-- A calculation keeps everything. -/
theorem keeps_ofExcept (r : Except Fault α) : (ofExcept r : Session σ α).Keeps view := by
  intro site
  rw [on_ofExcept]

/-- A look at the stop request keeps everything. -/
theorem keeps_isStopped : (isStopped : Session σ Bool).Keeps view := fun _ => rfl

/-- A change keeps what it does not touch. -/
theorem keeps_change {f : Site σ → Site σ} (h : ∀ site, view (f site) = view site) :
    (change f : Session σ Unit).Keeps view := h

/-- An attempt keeps what the session keeps. -/
theorem keeps_attempt {x : Session σ α} (hx : x.Keeps view) : (attempt x).Keeps view := hx

/-- What follows a session and keeps something adds no change to it. -/
theorem view_bind (x : Session σ α) {f : α → Session σ β} (hf : ∀ a, (f a).Keeps view)
    (site : Site σ) : view ((x >>= f).on site).2 = view (x.on site).2 := by
  rw [on_bind]
  rcases x.on site with ⟨e | a, s⟩
  · rfl
  · exact hf a s

/-- Sessions one after the other keep what each of them keeps. -/
theorem keeps_bind {x : Session σ α} {f : α → Session σ β} (hx : x.Keeps view)
    (hf : ∀ a, (f a).Keeps view) : (x >>= f).Keeps view := fun site =>
  (view_bind x hf site).trans (hx site)

/-- A choice between sessions keeps what both of them keep. -/
theorem keeps_ite {p : Prop} [Decidable p] {x y : Session σ α} (hx : x.Keeps view)
    (hy : y.Keeps view) : (if p then x else y).Keeps view := by
  split
  · exact hx
  · exact hy

end Keeps

end Session

/-! ## Runs of the tool -/

namespace Site

variable {σ : Type}

/-- The site after a runner was asked for a run: the surroundings remember it, a stop that was
requested meanwhile counts, and the invocation is noted. -/
def called (site : Site σ) (runner : Runner σ) (call : Invocation) : Site σ :=
  { site with
    surroundings := (runner call site.surroundings).2
    stopped := site.stopped || (runner call site.surroundings).1.requestsStop
    calls := site.calls ++ [call] }

/-- The site without its log. -/
def unlogged (site : Site σ) : Site σ := { site with records := [] }

/-- What scrapes leave behind: the health, and the failed runs that the listener was told of. -/
def results (site : Site σ) : Health × List RunFailure := (site.health, site.notices)

end Site

/-- A runner that leaves a result or reports a failed run, and raises no other trouble. -/
def Runner.Reports {σ : Type} (runner : Runner σ) : Prop :=
  ∀ call s e, (runner call s).1.outcome = .error e → ∃ f, e = .run f

/-- A runner that prints the same text whatever it runs. -/
def Runner.printing (exitCode : Int) (stdout : String) : Runner Unit :=
  fun call s => (⟨.ok ⟨call.command, exitCode, stdout, ""⟩, false⟩, s)

/-- A runner that prints the same text never raises trouble. -/
theorem Runner.reports_printing (exitCode : Int) (stdout : String) :
    (Runner.printing exitCode stdout).Reports := by
  intro call s e h
  cases h

variable {σ : Type}

/-- What comes of an invocation is what the runner replies. -/
theorem Session.on_invoke (runner : Runner σ) (call : Invocation) (site : Site σ) :
    (Session.invoke runner call).on site =
      ((runner call site.surroundings).1.outcome, site.called runner call) := by
  unfold Session.invoke
  rw [Session.on_bind]
  show (set _ >>= fun _ => Session.ofExcept _ : Session σ RunResult).on site = _
  rw [Session.on_bind]
  exact Session.on_ofExcept _ _

namespace Smi

/-- The invocation that asks for the help text. -/
def helpCall (smi : Smi) : Invocation := ⟨smi.helpCommand, smi.timeout⟩

/-- The invocation that asks for a table with the columns of some fields. -/
def queryCall (smi : Smi) (fields : List String) : Invocation :=
  ⟨smi.queryCommand fields, smi.timeout⟩

/-- The record of a run that begins. -/
def beginRecord (smi : Smi) (command : List String) : Log.Record :=
  .plain smi.channel .debug ("Executing command: " ++ commandText command)

/-- The record of a run that ended well. -/
def endRecord (smi : Smi) (result : RunResult) : Log.Record :=
  .plain smi.channel .debug
    ("Command completed successfully (" ++ Text.integerText result.stdout.length ++ " bytes)")

/-- The failure of a run that ended with an exit code other than zero. -/
def exitFailure (command : List String) (result : RunResult) : RunFailure :=
  ⟨.exited, command, result.exitCode, result.stdout, result.stderr⟩

/-- What a run makes of the runner's reply: a result with an exit code other than zero is a failed
run. -/
def accepted (command : List String) : Except Fault RunResult → Except Fault RunResult
  | .error e => .error e
  | .ok result =>
    if result.exitCode = 0 then .ok result else .error (.run (exitFailure command result))

/-- The records of a run. -/
def runRecords (smi : Smi) (command : List String) (reply : Except Fault RunResult) :
    List Log.Record :=
  smi.beginRecord command ::
    match accepted command reply with
    | .ok result => [smi.endRecord result]
    | .error _ => []

/-- A run asks the runner once, and its outcome is the reply as far as it is accepted. -/
theorem run_on (smi : Smi) (runner : Runner σ) (command : List String) (site : Site σ) :
    (smi.run runner command).on site =
      let reply := (runner ⟨command, smi.timeout⟩ site.surroundings).1.outcome
      (accepted command reply, { site.called runner ⟨command, smi.timeout⟩ with
        records := site.records ++ smi.runRecords command reply }) := by
  unfold Smi.run
  rw [Session.on_bind_ok _ (Session.on_note _ _ _ _), Session.on_bind, Session.on_invoke]
  simp only [runRecords]
  -- Both sides follow the reply: a fault ends the run before its exit code is looked at.
  cases (runner ⟨command, smi.timeout⟩ site.surroundings).1.outcome with
  | error e => rfl
  | ok result =>
    by_cases hcode : result.exitCode = 0
    · simp only [accepted, hcode, ne_eq, not_true_eq_false, if_false, if_true]
      rw [Session.on_bind_ok _ (Session.on_note _ _ _ _), Session.on_pure]
      simp [Site.called, beginRecord, endRecord]
    · simp only [accepted, hcode, ne_eq, not_false_eq_true, if_true, if_false]
      rw [Session.on_bind_error _ (Session.on_throw _ _)]
      rfl

/-- A run keeps what scrapes have left behind. -/
theorem keeps_run (smi : Smi) (runner : Runner σ) (command : List String) :
    (smi.run runner command).Keeps Site.results := fun site => by
  rw [run_on]
  rfl

/-- But for the log, a run leaves the site as the runner's reply does. -/
theorem run_unlogged {smi : Smi} {runner : Runner σ} {command : List String} {site : Site σ}
    {outcome : Except Fault RunResult}
    (h : accepted command (runner ⟨command, smi.timeout⟩ site.surroundings).1.outcome = outcome) :
    ∃ s : Site σ, s.unlogged = (site.called runner ⟨command, smi.timeout⟩).unlogged ∧
      (smi.run runner command).on site = (outcome, s) :=
  ⟨((smi.run runner command).on site).2, by rw [run_on]; rfl,
    Prod.ext (by rw [run_on]; exact h) rfl⟩

/-- The results that a run accepts are those with the exit code zero. -/
theorem accepted_eq_ok_iff {command : List String} {reply : Except Fault RunResult}
    {result : RunResult} :
    accepted command reply = .ok result ↔ reply = .ok result ∧ result.exitCode = 0 := by
  cases reply with
  | error e => simp [accepted]
  | ok r =>
    by_cases hcode : r.exitCode = 0
    · simpa [accepted, hcode] using fun h : r = result => h ▸ hcode
    · simpa [accepted, hcode] using fun h : r = result => h ▸ hcode

/-- Through a runner that raises no other trouble, a run fails by a failed run only. -/
theorem accepted_error {runner : Runner σ} (hrunner : runner.Reports) {command : List String}
    {call : Invocation} {s : σ} {e : Fault}
    (h : accepted command (runner call s).1.outcome = .error e) : ∃ f, e = .run f := by
  cases hreply : (runner call s).1.outcome with
  | error e' =>
    rw [hreply] at h
    cases h
    exact hrunner _ _ _ hreply
  | ok result =>
    rw [hreply, accepted] at h
    split at h <;> cases h
    exact ⟨_, rfl⟩

end Smi

end GpuMetrics
