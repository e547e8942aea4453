import GpuMetrics.Program
import GpuMetrics.Proofs.Resolution
import GpuMetrics.Proofs.Setting
import GpuMetrics.Proofs.ShellWords

/-!
# The command line of the tool

Settings accept every command line of the tool that is not blank. The tool can be named by it
exactly if the line is closed (`Smi.exists_ofCommand_iff`), and a line that is not closed is found
out only when the tool is named: a service then fails to be built, which is logged, while a listing
of the fields ends in the fault (`Intent.serve_of_error`, `Intent.list_of_error`). With a closed
line a listing ends in no fault but one that the runner raises (`Intent.outcome_of_list`).
-/

namespace GpuMetrics

open Text.ShellWords (Closed words)

/-! ## Naming the tool -/

namespace Smi

variable {command : String}

/-- A command line that is not closed names no tool, and the fault is one of its words. -/
theorem ofCommand_of_not_closed (h : ¬ Closed command.toList) :
    ∃ f, ∀ timeout channel, ofCommand command timeout channel = .error (.words f) := by
  cases hwords : words command with
  | ok ws => exact absurd (Text.ShellWords.exists_words_iff.mp ⟨ws, hwords⟩) h
  | error f =>
    refine ⟨f, fun timeout channel => ?_⟩
    rw [ofCommand, hwords]

/-- A closed command line that is not blank names a tool of at least one word. -/
theorem ofCommand_of_closed (hblank : Text.allBlank command.toList = false)
    (h : Closed command.toList) (timeout : Option Float) (channel : String) :
    ∃ smi, ofCommand command timeout channel = .ok smi ∧ smi.baseCommand ≠ [] := by
  obtain ⟨ws, hwords⟩ := Text.ShellWords.exists_words_iff.mpr h
  have hne : ws ≠ [] := Text.ShellWords.words_ne_nil hwords hblank
  cases ws with
  | nil => exact absurd rfl hne
  | cons w rest => exact ⟨⟨w :: rest, timeout, channel⟩, by rw [ofCommand, hwords], hne⟩

/-- A command line that is not blank names a tool exactly if it is closed. -/
theorem exists_ofCommand_iff (hblank : Text.allBlank command.toList = false)
    (timeout : Option Float) (channel : String) :
    (∃ smi, ofCommand command timeout channel = .ok smi ∧ smi.baseCommand ≠ []) ↔
      Closed command.toList := by
  constructor
  · rintro ⟨smi, hsmi, -⟩
    by_cases h : Closed command.toList
    · exact h
    · obtain ⟨f, hf⟩ := ofCommand_of_not_closed h
      rw [hf] at hsmi
      cases hsmi
  · intro h
    exact ofCommand_of_closed hblank h timeout channel

end Smi

namespace Intent

variable {σ : Type} {s : Settings} (rule : Metric.NameRule) (net : Service.Network)
  (runner : Runner σ) (events : List (Service.Event σ)) (site : Site σ)

/-- If no tool can be named, a listing of the fields ends in the fault before anything is done. -/
theorem list_of_error {e : Fault}
    (h : Smi.ofCommand s.collector.command.outline (some s.collector.commandTimeout)
      Service.channel = .error e) :
    ((list s).carryOut rule net runner events).on site = (.error e, site) := by
  rw [carryOut, listFields, Session.on_bind, Session.on_ofExcept, h]

/-- If no tool can be named, a service is not built, and that is logged. -/
theorem serve_of_error {e : Fault}
    (h : Collector.smiOf s.collector Service.channel = .error e) :
    (((serve s).carryOut rule net runner events).on site).1 = .ok .failed := by
  have hcollector (site : Site σ) : (Collector.build s.collector rule (some Service.listener)
      Service.channel none runner).on site = (.error e, site) := by
    rw [Collector.build, h]
    exact Session.on_bind_error _ (Session.on_ofExcept _ _) _
  have hbuild : ((Service.build s rule runner).on site).1 = .error e := by
    rw [Service.build, Session.on_bind_ok _ (Session.on_note _ _ _ _),
      Session.on_bind_error _ (hcollector _)]
  rw [carryOut, runService, Session.on_bind, Session.on_attempt, hbuild]
  rfl

/-- A question for help ends in no fault but those that the catalog makes up for and the one that
its run raises. -/
theorem outcome_of_detect {smi : Smi} {e : Fault}
    (h : ((Field.detect smi runner).on site).1 = .error e)
    (he : Field.isDetectionFault e = false) :
    (runner smi.helpCall site.surroundings).1.outcome = .error e := by
  have hrun := smi.run_on runner smi.helpCommand site
  rw [Field.detect, Smi.help, Session.on_bind, hrun] at h
  cases hreply : (runner smi.helpCall site.surroundings).1.outcome with
  | error e' =>
    rw [Smi.helpCall] at hreply
    simp only [hreply, Smi.accepted] at h
    exact congrArg _ (Except.error.inj h)
  | ok result =>
    -- A result ends in a failed run or in a help text without fields, if it ends in a fault.
    rw [Smi.helpCall] at hreply
    simp only [hreply, Smi.accepted] at h
    by_cases hcode : result.exitCode = 0
    · simp only [hcode, if_true] at h
      split at h
      · cases h
        cases he
      · cases h
    · simp only [hcode, if_false] at h
      cases h
      cases he

/-- If a tool can be named, a listing ends in no fault but the one that its only run raises. -/
theorem outcome_of_list {smi : Smi} {e : Fault}
    (hsmi : Smi.ofCommand s.collector.command.outline (some s.collector.commandTimeout)
      Service.channel = .ok smi)
    (h : (((list s).carryOut rule net runner events).on site).1 = .error e) :
    (runner smi.helpCall site.surroundings).1.outcome = .error e := by
  rw [carryOut, listFields, Session.on_bind, Session.on_ofExcept, hsmi] at h
  simp only at h
  rw [Session.on_bind, Session.on_attempt] at h
  cases hdetect : ((Field.detect smi runner).on site).1 with
  | ok fields =>
    rw [hdetect] at h
    cases h
  | error e' =>
    rw [hdetect] at h
    by_cases hfault : Field.isDetectionFault e' = true
    · simp only [hfault, if_true] at h
      cases h
    · simp only [hfault] at h
      cases h
      exact outcome_of_detect runner site hdetect (Bool.eq_false_iff.mpr hfault)

end Intent

/-! ## Accepted command lines -/

/-- The command line of settings that come from a document is not blank. -/
theorem Settings.command_of_ofDocument {d : Document} {s : Settings}
    (h : ofDocument d = .ok s) : Text.allBlank s.collector.command.outline.toList = false := by
  have hread : checkCommand s.collector.command = .ok s.collector.command :=
    Settings.accepted_of_ofDocument h .command
  exact (checkCommand_eq_ok_iff.mp hread).2

/-- With accepted settings a tool of at least one word can be named exactly if its command line is
closed. If it is not, a listing of the fields ends in the fault and not in a logged error, as a
service does; if it is, a listing ends in no fault but one that the runner raises. -/
theorem Intent.carryOut_of_accepted {σ : Type} {d : Document} {s : Settings}
    (h : Settings.ofDocument d = .ok s) (rule : Metric.NameRule) (net : Service.Network)
    (runner : Runner σ) (events : List (Service.Event σ)) (site : Site σ) :
    (∀ timeout channel, (∃ smi, Smi.ofCommand s.collector.command.outline timeout channel =
        .ok smi ∧ smi.baseCommand ≠ []) ↔ Closed s.collector.command.outline.toList) ∧
      (¬ Closed s.collector.command.outline.toList → ∃ f,
        ((list s).carryOut rule net runner events).on site = (.error (.words f), site) ∧
          (((serve s).carryOut rule net runner events).on site).1 = .ok .failed) ∧
      (Closed s.collector.command.outline.toList → ∀ e,
        (((list s).carryOut rule net runner events).on site).1 = .error e →
          ∃ call, (runner call site.surroundings).1.outcome = .error e) := by
  have hblank := Settings.command_of_ofDocument h
  refine ⟨fun timeout channel => Smi.exists_ofCommand_iff hblank timeout channel, ?_, ?_⟩
  · intro hopen
    obtain ⟨f, hf⟩ := Smi.ofCommand_of_not_closed hopen
    exact ⟨f, list_of_error rule net runner events site (hf _ _),
      serve_of_error rule net runner events site (hf _ _)⟩
  · intro hclosed e he
    obtain ⟨smi, hsmi, -⟩ := Smi.ofCommand_of_closed hblank hclosed
      (some s.collector.commandTimeout) Service.channel
    exact ⟨smi.helpCall, outcome_of_list rule net runner events site hsmi he⟩

/-- The words of a command line that asks for a listing with a quote that is not closed. -/
def openQuoteWords : List String := ["--nvidia-smi-command", "nvidia-smi '", "--list-query-fields"]

/-- The settings of that command line. -/
def openQuoteSettings : Settings := { collector := { command := "nvidia-smi '" } }

/-- A document with these settings. -/
def openQuoteDocument : Document :=
  .ofFields [("collector", .ofFields [("nvidia_smi_command", .text "nvidia-smi '")])]

/-- With a quote that is not closed a listing is asked for, and ends in the fault. -/
theorem Intent.carryOut_openQuote :
    Intent.of openQuoteWords {} [] = .list openQuoteSettings ∧
      Settings.ofDocument openQuoteDocument = .ok openQuoteSettings ∧
      ¬ Closed openQuoteSettings.collector.command.outline.toList ∧
      ∃ f, ((list openQuoteSettings).carryOut .anyName .willing (.printing 0 "") []).on
          (Site.initial ()) = (.error (.words f), Site.initial ()) := by
  have hintent : Intent.of openQuoteWords {} [] = .list openQuoteSettings := rfl
  have hdocument : Settings.ofDocument openQuoteDocument = .ok openQuoteSettings := rfl
  have hopen : ¬ Closed openQuoteSettings.collector.command.outline.toList := by
    rw [Text.ShellWords.closed_iff]
    decide
  obtain ⟨f, hlist, -⟩ := (carryOut_of_accepted hdocument .anyName .willing (.printing 0 "") []
    (Site.initial ())).2.1 hopen
  exact ⟨hintent, hdocument, hopen, f, hlist⟩

end GpuMetrics
