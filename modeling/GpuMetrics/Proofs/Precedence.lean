import GpuMetrics.Proofs.Options

/-!
# Which layer a setting comes from

The layers of the variables and of the command line have just the values that were said on each
setting. So each setting comes from the first of the command line, the variables and the file that
has a value for it, and depends on no other setting in any of them.

A value that is not used counts as well: the file has to give settings by itself, and each variable
has to have a value that its setting accepts, even if the command line has another value for it.
`settings_layered` says both, once for the three stages that are run one after the other and once
for the values of a single setting.
-/

namespace GpuMetrics

namespace Setting

/-- Of two values, the second counts only where the first is not there. -/
theorem found_or {k : Setting} {first second : Option Document} {otherwise v : k.Value}
    (h : k.found second otherwise = .ok v) :
    k.found (first.or second) otherwise = k.found first v := by
  cases first with
  | none => exact h
  | some d => rfl

/-- A setting without a value keeps what it has. -/
theorem eq_of_found_none {k : Setting} {otherwise v : k.Value}
    (h : k.found none otherwise = .ok v) : v = otherwise := by
  cases h
  rfl

end Setting

/-- There are settings with any values. -/
theorem Settings.exists_get (v : (k : Setting) → k.Value) : ∃ s : Settings, ∀ k, s.get k = v k :=
  ⟨⟨⟨v .stem, v .command, v .queryFieldNames, v .shutdownOnError, v .commandTimeout⟩,
    ⟨v .listenAddress, v .telemetryPath⟩, v .logLevel⟩, fun k => by cases k <;> rfl⟩

/-- Settings that come from a layer over others are accepted. -/
theorem Settings.accepted_of_overlaid {s s' : Settings} {layer : Document}
    (h : s.overlaid layer = .ok s') : s'.Accepted := by
  unfold overlaid at h
  split at h
  · cases h
  · exact accepted_of_ofDocument h

namespace CommandLine.Arguments

variable (a : Arguments) (files : Files) (env : Environment)

/-- The document of the file that the command line names, with its placeholders replaced. It is an
empty table if the command line names no file, or if the file holds nothing. -/
def fileDocument : Except FileFault Document :=
  match a.config with
  | some (.value path) =>
    if path.isEmpty then .ok (.table [])
    else match files.read path with
      | .error e => .error e
      | .ok text =>
        match Yaml.load text with
        | .error e => .error (.unreadable e)
        | .ok d => .ok (if d.isEmpty then .table [] else env.substitute d)
  | _ => .ok (.table [])

/-- The settings of the file are those of its document. -/
theorem fileSettings_eq : a.fileSettings files env =
    (a.fileDocument files env).bind fun d => (Settings.ofDocument d).mapError .rejected := by
  unfold fileSettings fileDocument Files.settings
  cases a.config with
  | none => rfl
  | some given =>
    cases given with
    | nothing => rfl
    | value path =>
      simp only
      split
      · rfl
      · cases files.read path with
        | error e => rfl
        | ok text =>
          simp only
          cases Yaml.load text <;> rfl

/-- The settings after each of the three layers: `base` are those of the file, `between` those with
the variables laid over them, and `s` those with the command line laid over both. -/
structure Staged (base between s : Settings) : Prop where
  /-- The file gives settings. -/
  file : a.fileSettings files env = .ok base
  /-- The variables give settings over those of the file. -/
  environment : base.overlaid env.layer = .ok between
  /-- The command line gives settings over those. -/
  commandLine : between.overlaid a.layer = .ok s

/-- How settings come from a document and from what the variables and the command line say. -/
structure Layered (d : Document) (s : Settings) : Prop where
  /-- The document gives settings by itself. -/
  file : ∃ base, Settings.ofDocument d = .ok base
  /-- Each variable has a value that its setting accepts. -/
  environment : ∀ (k : Setting) (said : Document), env.given? k = some said →
    ∃ v, k.read said = .ok v
  /-- Each setting is what the first of the command line, the variables and the document has for it,
  or its default if none of them has a value. -/
  settled : ∀ k : Setting,
    k.found ((a.given? k).or ((env.given? k).or (k.at? d))) k.fallback = .ok (s.get k)

variable {a files env} {base between s : Settings}

/-- The stages are run one after the other. -/
theorem settings_eq_ok_iff :
    a.settings files env = .ok s ↔ ∃ base between, a.Staged files env base between s := by
  have hsteps : a.settings files env = (a.fileSettings files env).bind fun base =>
      ((base.overlaid env.layer).mapError .rejected).bind fun between =>
        (between.overlaid a.layer).mapError .rejected := rfl
  rw [hsteps, bind_eq_ok_iff]
  constructor
  · rintro ⟨base, hfile, hrest⟩
    obtain ⟨between, henvironment, hline⟩ := bind_eq_ok_iff.mp hrest
    exact ⟨base, between, hfile, mapError_eq_ok_iff.mp henvironment, mapError_eq_ok_iff.mp hline⟩
  · rintro ⟨base, between, hfile, henvironment, hline⟩
    exact ⟨base, hfile, bind_eq_ok_iff.mpr
      ⟨between, mapError_eq_ok_iff.mpr henvironment, mapError_eq_ok_iff.mpr hline⟩⟩

/-- The settings of the file come from its document. -/
theorem fileSettings_eq_ok_iff : a.fileSettings files env = .ok base ↔
    ∃ d, a.fileDocument files env = .ok d ∧ Settings.ofDocument d = .ok base := by
  rw [fileSettings_eq, bind_eq_ok_iff]
  simp only [mapError_eq_ok_iff]

/-- The variables over accepted settings change those that they have a value for. -/
theorem overlaid_environment_iff (hbase : base.Accepted) : base.overlaid env.layer = .ok between ↔
    ∀ k : Setting, k.found (env.given? k) (base.get k) = .ok (between.get k) := by
  simp only [Settings.overlaid_eq_ok_iff hbase env.isLayer_layer, at?_environment]

/-- The command line over accepted settings changes those that it has a value for. -/
theorem overlaid_commandLine_iff (hbetween : between.Accepted) :
    between.overlaid a.layer = .ok s ↔
      ∀ k : Setting, k.found (a.given? k) (between.get k) = .ok (s.get k) := by
  simp only [Settings.overlaid_eq_ok_iff hbetween a.isLayer_layer, at?_arguments]

/-- The settings of the file are accepted. -/
theorem Staged.accepted_base (h : a.Staged files env base between s) : base.Accepted := by
  obtain ⟨d, -, hd⟩ := fileSettings_eq_ok_iff.mp h.file
  exact Settings.accepted_of_ofDocument hd

/-- What the stages come to for each setting. -/
theorem Staged.layered (h : a.Staged files env base between s) :
    ∃ d, a.fileDocument files env = .ok d ∧ a.Layered env d s := by
  obtain ⟨d, hd, hbase⟩ := fileSettings_eq_ok_iff.mp h.file
  have hfile := (Settings.ofDocument_eq_ok_iff.mp hbase).2
  have henvironment := (overlaid_environment_iff h.accepted_base).mp h.environment
  have hline := (overlaid_commandLine_iff (Settings.accepted_of_overlaid h.environment)).mp
    h.commandLine
  refine ⟨d, hd, ⟨base, hbase⟩, fun k said hsaid => ?_, fun k => ?_⟩
  · have hk := henvironment k
    rw [hsaid] at hk
    exact ⟨_, hk⟩
  · have hbetween : k.found ((env.given? k).or (k.at? d)) k.fallback = .ok (between.get k) :=
      (Setting.found_or (hfile k)).trans (henvironment k)
    exact (Setting.found_or hbetween).trans (hline k)

/-- The document and what was said determine the settings. -/
theorem Layered.unique {d : Document} {s' : Settings} (h : a.Layered env d s)
    (h' : a.Layered env d s') : s = s' :=
  Settings.ext_get fun k => Except.ok.inj ((h.settled k).symm.trans (h'.settled k))

/-- If each setting can be settled, every stage gives settings. -/
theorem Layered.staged {d : Document} (hd : a.fileDocument files env = .ok d)
    (h : a.Layered env d s) : ∃ base between, a.Staged files env base between s := by
  obtain ⟨base, hbase⟩ := h.file
  have hfile := (Settings.ofDocument_eq_ok_iff.mp hbase).2
  have haccepted := Settings.accepted_of_ofDocument hbase
  -- What the variables leave for a setting, which the command line may change again.
  have hfound : ∀ k : Setting, ∃ v, k.found (env.given? k) (base.get k) = .ok v := by
    intro k
    cases hsaid : env.given? k with
    | none => exact ⟨_, rfl⟩
    | some said => exact h.environment k said hsaid
  obtain ⟨v, hv⟩ := Classical.axiomOfChoice hfound
  obtain ⟨between, hget⟩ := Settings.exists_get v
  have henvironment : base.overlaid env.layer = .ok between := by
    rw [overlaid_environment_iff haccepted]
    intro k
    rw [hget]
    exact hv k
  refine ⟨base, between, fileSettings_eq_ok_iff.mpr ⟨d, hd, hbase⟩, henvironment, ?_⟩
  rw [overlaid_commandLine_iff (Settings.accepted_of_overlaid henvironment)]
  intro k
  have hbetween : k.found ((env.given? k).or (k.at? d)) k.fallback = .ok (between.get k) := by
    rw [Setting.found_or (hfile k), hget]
    exact hv k
  rw [← Setting.found_or hbetween]
  exact h.settled k

/-- A stage leaves the settings that it has no value for as they are. -/
theorem Staged.kept (h : a.Staged files env base between s) (k : Setting) :
    (env.given? k = none → between.get k = base.get k) ∧
      (a.given? k = none → s.get k = between.get k) := by
  have henvironment := (overlaid_environment_iff h.accepted_base).mp h.environment k
  have hline := (overlaid_commandLine_iff (Settings.accepted_of_overlaid h.environment)).mp
    h.commandLine k
  constructor
  · intro hnone
    rw [hnone] at henvironment
    exact Setting.eq_of_found_none henvironment
  · intro hnone
    rw [hnone] at hline
    exact Setting.eq_of_found_none hline

/-- There are settings exactly if the file, the variables over it and the command line over both
give settings. These are exactly the settings in which each setting by itself has its value from the
first of the command line, the variables and the file that has one, or else its default, where the
file gives settings by itself and every variable has an accepted value, used or not. No stage
changes a setting that it has no value for. -/
theorem settings_layered (a : Arguments) (files : Files) (env : Environment) (s : Settings) :
    (a.settings files env = .ok s ↔ ∃ base between, a.Staged files env base between s) ∧
      (a.settings files env = .ok s ↔
        ∃ d, a.fileDocument files env = .ok d ∧ a.Layered env d s) ∧
      ∀ base between, a.Staged files env base between s → ∀ k : Setting,
        (env.given? k = none → between.get k = base.get k) ∧
          (a.given? k = none → s.get k = between.get k) := by
  refine ⟨settings_eq_ok_iff, ?_, fun base between h => h.kept⟩
  rw [settings_eq_ok_iff]
  constructor
  · rintro ⟨base, between, h⟩
    exact h.layered
  · rintro ⟨d, hd, h⟩
    exact h.staged hd

/-- The path comes from the command line, which has one as well as the variables, and the address
from the variables, which alone have one. -/
example : ({ telemetryPath := some (.value "/line") } : Arguments).settings {}
    [("NVIDIA_GPU_EXPORTER_TELEMETRY_PATH", "/variable"),
      ("NVIDIA_GPU_EXPORTER_LISTEN_ADDRESS", ":1")] =
    .ok { web := { listenAddress := ":1", telemetryPath := "/line" } } := rfl

end CommandLine.Arguments

end GpuMetrics
