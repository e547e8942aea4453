import GpuMetrics.Log.Level
import GpuMetrics.Proofs.FixedNames
import GpuMetrics.Proofs.Precedence
import GpuMetrics.Proofs.Tool

/-!
# Settings that can be reached

Settings are loaded from a document, and any number of layers may be laid over them. Each of these
steps reads all settings, so that each of them accepts what it holds (`Reachable.accepted`); and
there are no other settings of this kind than those that can be reached (`reachable_iff_accepted`).

What was accepted is looked at a second time where it is used: the fields and the address are parsed
again, and the name of the level is looked up. Nothing that was accepted is refused there
(`Settings.sound_of_reachable`).
-/

namespace GpuMetrics

/-! ## Numbers -/

/-- What lies above something is a number. -/
theorem isNaN_of_lt {a x : Float} (h : a < x) : x.isNaN = false := by
  have hlt : a.toModel.unpack.lt x.toModel.unpack = true := by
    have h' : Float.lt a x = true := h
    rw [Float.lt, decide_eq_true_iff] at h'
    exact h'
  show x.toModel.unpack.isNaN = false
  generalize x.toModel.unpack = u at hlt ⊢
  cases u with
  | notANumber =>
    -- What is no number is not above anything.
    cases hu : a.toModel.unpack <;> rw [hu] at hlt <;> cases hlt
  | _ => rfl

/-! ## What the checks accept -/

/-- An accepted level is one of the names in capitals. -/
theorem mem_logLevels_of_checkLogLevel {w : Text.Wording} {level : String}
    (h : checkLogLevel w = .ok level) : level ∈ logLevels := by
  unfold checkLogLevel at h
  simp only at h
  split at h
  · next hlevel =>
    cases h
    exact hlevel
  · cases h

/-- The port of an address is one that there is. -/
theorem Address.port_le_of_parse {s : String} {a : Address} (h : parse s = .ok a) :
    a.port ≤ 65535 := by
  unfold parse at h
  split at h
  · cases h
  · split at h
    · cases h
    · split at h
      · cases h
      · next n _ =>
        split at h
        · cases h
        · next hport =>
          cases h
          rw [mostPort] at hport
          show n.toNat ≤ 65535
          omega

/-- Each name that settings accept is that of a level. -/
theorem Log.exists_levelOf {name : String} (h : name ∈ logLevels) :
    ∃ level, levelOf name = .ok level := by
  have hnames : ∀ name ∈ logLevels, (levelOf name).isOk = true := by decide
  have hok := hnames name h
  cases hlevel : levelOf name with
  | ok level => exact ⟨level, rfl⟩
  | error e =>
    rw [hlevel] at hok
    cases hok

/-! ## Reaching settings -/

namespace Settings

/-- The settings that can be reached: those that are loaded from a document, and those that come
from a layer over others that can be reached. -/
inductive Reachable : Settings → Prop
  | /-- The settings are loaded from a document. -/
    load {env : Environment} {d : Document} {s : Settings} (h : load env d = .ok s) : Reachable s
  | /-- A layer over settings gives settings. -/
    overlaid {s s' : Settings} {layer : Document} (hs : Reachable s)
      (h : s.overlaid layer = .ok s') : Reachable s'

/-- What the users of settings rely on. -/
structure Sound (s : Settings) : Prop where
  /-- The stem is nothing, a legal name, or one with a line end behind it. -/
  stem : AcceptedStem s.collector.stem
  /-- The command line is not blank. -/
  command : Text.allBlank s.collector.command.outline.toList = false
  /-- The fields to ask for are read without a fault. -/
  request : ∃ r, s.request = .ok r
  /-- A run of the tool may take some time, and it is a number that says how long. -/
  timeout : s.collector.commandTimeout > 0 ∧ s.collector.commandTimeout.isNaN = false
  /-- The address is read without a fault, and its port is at most the greatest one. -/
  address : ∃ a, s.address = .ok a ∧ a.port ≤ 65535
  /-- The path of the metrics begins with a slash. -/
  path : Text.startsWith "/" s.web.telemetryPath.outline = true
  /-- The level is one of the names in capitals, and is looked up without a fault. -/
  level : s.logLevel ∈ logLevels ∧ ∃ level, Log.levelOf s.logLevel = .ok level
  /-- With an empty table laid over them, the settings are read again from their own document as
  they are. -/
  again : s.overlaid (.table []) = .ok s

/-- Settings that can be reached are accepted. -/
theorem Reachable.accepted {s : Settings} (h : Reachable s) : s.Accepted := by
  induction h with
  | load h => exact accepted_of_ofDocument h
  | overlaid _ h _ => exact accepted_of_overlaid h

/-- The document of settings is a layer. -/
theorem isLayer_document (s : Settings) : s.document.IsLayer where
  toIsSettings := s.isSettings_document
  nodup := Document.nodup_keys_ofFields (by simp)
  nodupParts := fun part hpart inner hinner => by
    rw [Setting.parts, List.mem_cons, List.mem_singleton] at hpart
    rcases hpart with rfl | rfl
    · cases hinner
      exact Document.nodup_keys_ofFields (by simp)
    · cases hinner
      exact Document.nodup_keys_ofFields (by simp)

/-- The settings that can be reached are those that are accepted. -/
theorem reachable_iff_accepted {s : Settings} : Reachable s ↔ s.Accepted := by
  refine ⟨Reachable.accepted, fun h => ?_⟩
  -- Nothing is loaded, and the document of the settings is laid over the defaults.
  have hload : load [] .null = .ok {} := rfl
  have hlayer : overlaid {} s.document = .ok s := by
    rw [overlaid_eq_ok_iff accepted_default s.isLayer_document]
    intro k
    rw [Setting.at?_document]
    exact h k
  exact .overlaid (.load hload) hlayer

/-- Accepted settings stay as they are if an empty table is laid over them. -/
theorem Accepted.overlaid_empty {s : Settings} (h : s.Accepted) :
    s.overlaid (.table []) = .ok s := by
  rw [overlaid_eq_ok_iff h Document.isLayer_empty]
  intro k
  rw [k.at?_empty]
  rfl

/-- Settings that can be reached keep what their users rely on, however they were reached. -/
theorem sound_of_reachable {s : Settings} (h : Reachable s) : Sound s := by
  have haccepted := h.accepted
  have hpositive : s.collector.commandTimeout > 0 :=
    (checkPositive_eq_ok_iff.mp (haccepted .commandTimeout)).2
  have haddress : ∃ a, s.address = .ok a := (checkAddress_eq_ok_iff.mp (haccepted .listenAddress)).2
  obtain ⟨a, ha⟩ := haddress
  have hlevel : s.logLevel ∈ logLevels := mem_logLevels_of_checkLogLevel (haccepted .logLevel)
  exact {
    stem := (checkStem_eq_ok_iff.mp (haccepted .stem)).2
    command := (checkCommand_eq_ok_iff.mp (haccepted .command)).2
    request := (checkFields_eq_ok_iff.mp (haccepted .queryFieldNames)).2
    timeout := ⟨hpositive, isNaN_of_lt hpositive⟩
    address := ⟨a, ha, Address.port_le_of_parse ha⟩
    path := (checkPath_eq_ok_iff.mp (haccepted .telemetryPath)).2
    level := ⟨hlevel, Log.exists_levelOf hlevel⟩
    again := haccepted.overlaid_empty }

/-- A document with a command line and a level. -/
def toolDocument (command level : Text.Wording) : Document :=
  .ofFields [
    ("collector", .ofFields [("nvidia_smi_command", .text command)]), ("log_level", .text level)]

/-- A layer with a port in digits of another script, a number written as a text, and a level in
letters of both cases. -/
def portLayer : Document :=
  .ofFields [
    ("collector", .ofFields [("command_timeout", .text " 2.5 ")]),
    ("web", .ofFields [("listen_address", .text "[::1]:٩٨٣٥")]), ("log_level", .text "Debug")]

/-- The settings of such a document, without the layer. -/
def toolSettings : Settings where
  collector := { command := "smi -i 0" }
  logLevel := "WARNING"

/-- The settings with the layer over them. -/
def portSettings : Settings where
  collector := { command := "smi -i 0", commandTimeout := 2.5 }
  web := { listenAddress := "[::1]:٩٨٣٥" }
  logLevel := "DEBUG"

/-- These settings are reached from a document with a placeholder, and a layer. -/
theorem sound_portSettings : Reachable portSettings ∧ Sound portSettings := by
  let env : Environment := [("TOOL", "smi")]
  have hcommand : env.expanded "$\x7bTOOL\x7d -i 0" = "smi -i 0" := by decide +kernel
  have hlevel : env.expanded "warning" = "warning" := by decide +kernel
  have hload : load env (toolDocument "$\x7bTOOL\x7d -i 0" "warning") = .ok toolSettings := by
    have hexpanded : ∀ command level : Text.Wording, load env (toolDocument command level) =
        ofDocument (toolDocument (env.expanded command) (env.expanded level)) := fun _ _ => rfl
    rw [hexpanded, hcommand, hlevel]
    rfl
  have hlayer : toolSettings.overlaid portLayer = .ok portSettings := rfl
  have hreachable : Reachable portSettings := .overlaid (.load hload) hlayer
  exact ⟨hreachable, sound_of_reachable hreachable⟩

end Settings

end GpuMetrics
