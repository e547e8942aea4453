import GpuMetrics.Config.Check
import GpuMetrics.Proofs.Keyed

/-!
# One setting at a time

Settings are read from a document table by table, but each setting depends on its own value only.
`Setting` names the eight of them, each with the place of its value in a document (`at?`), the way
its value is read (`read`) and the value that it has without one (`fallback`). A document gives
settings exactly if its tables are tables and each setting can be read, and then each setting is
what was read (`ofDocument_eq_ok_iff`).

A value that was accepted is written in such a way that it is read again as it is (`read_write`), so
that settings that come from a document are found again from their own document
(`accepted_of_ofDocument`).
-/

namespace GpuMetrics

/-! ## Results that may be errors -/

/-- A result of two steps is the result of the second on that of the first. -/
theorem bind_eq_ok_iff {ε α β : Type} {x : Except ε α} {f : α → Except ε β} {b : β} :
    x.bind f = .ok b ↔ ∃ a, x = .ok a ∧ f a = .ok b := by
  cases x with
  | error e => simp [Except.bind]
  | ok a => simp [Except.bind]

/-- Errors that are told in another way leave the other results as they are. -/
theorem mapError_eq_ok_iff {ε ε' α : Type} {f : ε → ε'} {x : Except ε α} {a : α} :
    x.mapError f = .ok a ↔ x = .ok a := by
  cases x with
  | error e =>
    constructor
    · intro h
      cases h
    · intro h
      cases h
  | ok b =>
    constructor
    · intro h
      cases h
      rfl
    · intro h
      cases h
      rfl

/-! ## What the checks accept -/

/-- Settings accept exactly the command lines that are not blank. -/
theorem checkCommand_eq_ok_iff {w v : Text.Wording} :
    checkCommand w = .ok v ↔ w = v ∧ Text.allBlank w.outline.toList = false := by
  unfold checkCommand
  split
  · next hblank => simp [hblank]
  · next hblank => simpa using fun _ => hblank

/-- Settings accept exactly the requests for fields that can be read. -/
theorem checkFields_eq_ok_iff {w v : Text.Wording} :
    checkFields w = .ok v ↔ w = v ∧ ∃ r, Field.Request.parse w.outline = .ok r := by
  unfold checkFields
  cases Field.Request.parse w.outline <;> simp

/-- Settings accept exactly the numbers greater than zero. -/
theorem checkPositive_eq_ok_iff {x y : Float} : checkPositive x = .ok y ↔ x = y ∧ x > 0 := by
  unfold checkPositive
  split
  · next hpositive => simp [hpositive]
  · next hpositive => simp [hpositive]

/-- Settings accept exactly the addresses that can be read. -/
theorem checkAddress_eq_ok_iff {w v : Text.Wording} :
    checkAddress w = .ok v ↔ w = v ∧ ∃ a, Address.parse w.outline = .ok a := by
  unfold checkAddress
  cases Address.parse w.outline <;> simp

/-- Settings accept exactly the paths that begin with a slash. -/
theorem checkPath_eq_ok_iff {w v : Text.Wording} :
    checkPath w = .ok v ↔ w = v ∧ Text.startsWith "/" w.outline = true := by
  unfold checkPath
  split
  · next hslash => simp [hslash]
  · next hslash => simp [hslash]

/-! ## Settings and their values -/

/-- A setting of the exporter. -/
inductive Setting
  | /-- What every metric name begins with. -/
    stem
  | /-- The command line of the tool. -/
    command
  | /-- The fields to ask for. -/
    queryFieldNames
  | /-- Whether the exporter shuts down when the tool exits with an error. -/
    shutdownOnError
  | /-- The seconds that a run of the tool may take. -/
    commandTimeout
  | /-- The address to listen on. -/
    listenAddress
  | /-- The path of the metrics. -/
    telemetryPath
  | /-- The level of the log. -/
    logLevel
  deriving DecidableEq, Repr

namespace Setting

/-- All settings. -/
def all : List Setting := [
  stem, command, queryFieldNames, shutdownOnError, commandTimeout, listenAddress, telemetryPath,
  logLevel]

/-- What a setting holds. -/
def Value : Setting → Type
  | stem => String
  | command => Text.Wording
  | queryFieldNames => Text.Wording
  | shutdownOnError => Bool
  | commandTimeout => Float
  | listenAddress => Text.Wording
  | telemetryPath => Text.Wording
  | logLevel => String

/-- The table that the value of a setting stands in, unless it stands in none. -/
def part? : Setting → Option String
  | stem => some "collector"
  | command => some "collector"
  | queryFieldNames => some "collector"
  | shutdownOnError => some "collector"
  | commandTimeout => some "collector"
  | listenAddress => some "web"
  | telemetryPath => some "web"
  | logLevel => none

/-- The key of the value of a setting. -/
def key : Setting → String
  | stem => "prefix"
  | command => "nvidia_smi_command"
  | queryFieldNames => "query_field_names"
  | shutdownOnError => "shutdown_on_error"
  | commandTimeout => "command_timeout"
  | listenAddress => "listen_address"
  | telemetryPath => "telemetry_path"
  | logLevel => "log_level"

/-- What a value in a document is for a setting, if the setting accepts it. -/
def read : (k : Setting) → Document → Except Problem k.Value
  | stem, d => d.readText.bind checkStem
  | command, d => d.readText.bind checkCommand
  | queryFieldNames, d => d.readText.bind checkFields
  | shutdownOnError, d => d.readFlag
  | commandTimeout, d => d.readNumber.bind checkPositive
  | listenAddress, d => d.readText.bind checkAddress
  | telemetryPath, d => d.readText.bind checkPath
  | logLevel, d => d.readText.bind checkLogLevel

/-- The document of what a setting holds. -/
def write : (k : Setting) → k.Value → Document
  | stem, (s : String) => .text s
  | command, w => .text w
  | queryFieldNames, w => .text w
  | shutdownOnError, b => .flag b
  | commandTimeout, x => .number x
  | listenAddress, w => .text w
  | telemetryPath, w => .text w
  | logLevel, (s : String) => .text s

end Setting

/-- What some settings hold for a setting. -/
def Settings.get (s : Settings) : (k : Setting) → k.Value
  | .stem => s.collector.stem
  | .command => s.collector.command
  | .queryFieldNames => s.collector.queryFieldNames
  | .shutdownOnError => s.collector.shutdownOnError
  | .commandTimeout => s.collector.commandTimeout
  | .listenAddress => s.web.listenAddress
  | .telemetryPath => s.web.telemetryPath
  | .logLevel => s.logLevel

/-- Settings are known if each of them is. -/
theorem Settings.ext_get {s s' : Settings} (h : ∀ k, s.get k = s'.get k) : s = s' := by
  obtain ⟨⟨stem, command, fields, shutdown, timeout⟩, ⟨address, path⟩, level⟩ := s
  obtain ⟨⟨stem', command', fields', shutdown', timeout'⟩, ⟨address', path'⟩, level'⟩ := s'
  obtain rfl : stem = stem' := h .stem
  obtain rfl : command = command' := h .command
  obtain rfl : fields = fields' := h .queryFieldNames
  obtain rfl : shutdown = shutdown' := h .shutdownOnError
  obtain rfl : timeout = timeout' := h .commandTimeout
  obtain rfl : address = address' := h .listenAddress
  obtain rfl : path = path' := h .telemetryPath
  obtain rfl : level = level' := h .logLevel
  rfl

namespace Setting

/-- What a setting holds without a value. -/
def fallback (k : Setting) : k.Value := ({} : Settings).get k

/-- What a setting holds if a document may have a value for it: that value, if it is accepted, or
else what the setting holds otherwise. -/
def found (k : Setting) (value? : Option Document) (otherwise : k.Value) :
    Except Problem k.Value :=
  match value? with
  | some d => k.read d
  | none => .ok otherwise

/-- The value of a setting in a document, if the document has one. -/
def at? (k : Setting) (d : Document) : Option Document :=
  match k.part? with
  | none => d.get? k.key
  | some part => (d.get? part).bind fun inner => inner.get? k.key

/-! ## Reading what was written -/

/-- An accepted stem is accepted again. -/
theorem checkStem_again {w : Text.Wording} {s : String} (h : checkStem w = .ok s) :
    checkStem s = .ok s := by
  unfold checkStem at h ⊢
  simp only at h ⊢
  split at h
  · next stem hstem =>
    cases h
    obtain ⟨-, hisStem⟩ := Option.filter_eq_some_iff.mp hstem
    rw [Text.Wording.string?_coe, Option.filter_some, if_pos hisStem]
  · cases h

/-- An accepted level is accepted again, since it is written in capitals. -/
theorem checkLogLevel_again {w : Text.Wording} {level : String} (h : checkLogLevel w = .ok level) :
    checkLogLevel level = .ok level := by
  have hcapitals : ∀ n ∈ logLevels, Text.uppered n = n := by decide
  unfold checkLogLevel at h ⊢
  simp only at h ⊢
  split at h
  · next hlevel =>
    cases h
    rw [Text.Wording.outline_coe, hcapitals _ hlevel, if_pos hlevel]
  · cases h

/-- What a setting has accepted is read again as it is. -/
theorem read_write {k : Setting} {d : Document} {v : k.Value} (h : k.read d = .ok v) :
    k.read (k.write v) = .ok v := by
  cases k with
  | stem =>
    obtain ⟨w, -, hcheck⟩ := bind_eq_ok_iff.mp h
    exact checkStem_again hcheck
  | command =>
    obtain ⟨w, -, hcheck⟩ := bind_eq_ok_iff.mp h
    obtain rfl := (checkCommand_eq_ok_iff.mp hcheck).1
    exact hcheck
  | queryFieldNames =>
    obtain ⟨w, -, hcheck⟩ := bind_eq_ok_iff.mp h
    obtain rfl := (checkFields_eq_ok_iff.mp hcheck).1
    exact hcheck
  | shutdownOnError => rfl
  | commandTimeout =>
    obtain ⟨x, -, hcheck⟩ := bind_eq_ok_iff.mp h
    obtain rfl := (checkPositive_eq_ok_iff.mp hcheck).1
    exact hcheck
  | listenAddress =>
    obtain ⟨w, -, hcheck⟩ := bind_eq_ok_iff.mp h
    obtain rfl := (checkAddress_eq_ok_iff.mp hcheck).1
    exact hcheck
  | telemetryPath =>
    obtain ⟨w, -, hcheck⟩ := bind_eq_ok_iff.mp h
    obtain rfl := (checkPath_eq_ok_iff.mp hcheck).1
    exact hcheck
  | logLevel =>
    obtain ⟨w, -, hcheck⟩ := bind_eq_ok_iff.mp h
    exact checkLogLevel_again hcheck

/-- What a setting holds without a value is read as it is. -/
theorem read_write_fallback (k : Setting) : k.read (k.write k.fallback) = .ok k.fallback := by
  cases k with
  | commandTimeout =>
    have hpositive : (10 : Float) > 0 := by decide
    show checkPositive 10 = .ok 10
    rw [checkPositive, if_pos hpositive]
  | _ => rfl

end Setting

/-! ## Tables -/

/-- A setting of a table is read from the value under its key. -/
theorem setting_eq_found (k : Setting) (entries : Keyed Key Document) :
    setting entries k.key k.read k.fallback =
      k.found (Keyed.get? entries (.name k.key)) k.fallback := by
  unfold setting Setting.found
  cases Keyed.get? entries (.name k.key) <;> rfl

/-- A table gives the settings of the collector exactly if each of them can be read. -/
theorem CollectorSettings.ofEntries_eq_ok_iff {path : List String} {entries : Keyed Key Document}
    {s : Settings} : ofEntries path entries = .ok s.collector ↔
      ∀ k : Setting, k.part? = some "collector" →
        k.found (Keyed.get? entries (.name k.key)) k.fallback = .ok (s.get k) := by
  constructor
  · intro h k hk
    rw [← setting_eq_found]
    unfold ofEntries at h
    simp only at h
    split at h
    · next hstem hcommand hfields hshutdown htimeout =>
      obtain ⟨collector, web, level⟩ := s
      cases h
      cases k with
      | stem => exact hstem
      | command => exact hcommand
      | queryFieldNames => exact hfields
      | shutdownOnError => exact hshutdown
      | commandTimeout => exact htimeout
      | listenAddress | telemetryPath | logLevel => exact absurd hk (by decide)
    · cases h
  · intro h
    have hread (k : Setting) (hk : k.part? = some "collector") :
        setting entries k.key k.read k.fallback = .ok (s.get k) :=
      (setting_eq_found k entries).trans (h k hk)
    unfold ofEntries
    simp only
    split
    · next hstem hcommand hfields hshutdown htimeout =>
      cases hstem.symm.trans (hread .stem rfl)
      cases hcommand.symm.trans (hread .command rfl)
      cases hfields.symm.trans (hread .queryFieldNames rfl)
      cases hshutdown.symm.trans (hread .shutdownOnError rfl)
      cases htimeout.symm.trans (hread .commandTimeout rfl)
      rfl
    · next hnone =>
      exact absurd (hread .commandTimeout rfl)
        (hnone _ _ _ _ _ (hread .stem rfl) (hread .command rfl) (hread .queryFieldNames rfl)
          (hread .shutdownOnError rfl))

/-- A table gives the settings of the web server exactly if each of them can be read. -/
theorem WebSettings.ofEntries_eq_ok_iff {path : List String} {entries : Keyed Key Document}
    {s : Settings} : ofEntries path entries = .ok s.web ↔
      ∀ k : Setting, k.part? = some "web" →
        k.found (Keyed.get? entries (.name k.key)) k.fallback = .ok (s.get k) := by
  constructor
  · intro h k hk
    rw [← setting_eq_found]
    unfold ofEntries at h
    simp only at h
    split at h
    · next haddress hpath =>
      obtain ⟨collector, web, level⟩ := s
      cases h
      cases k with
      | listenAddress => exact haddress
      | telemetryPath => exact hpath
      | stem | command | queryFieldNames | shutdownOnError | commandTimeout | logLevel =>
        exact absurd hk (by decide)
    · cases h
  · intro h
    have hread (k : Setting) (hk : k.part? = some "web") :
        setting entries k.key k.read k.fallback = .ok (s.get k) :=
      (setting_eq_found k entries).trans (h k hk)
    unfold ofEntries
    simp only
    split
    · next haddress hpath =>
      cases haddress.symm.trans (hread .listenAddress rfl)
      cases hpath.symm.trans (hread .telemetryPath rfl)
      rfl
    · next hnone =>
      exact absurd (hread .telemetryPath rfl) (hnone _ _ (hread .listenAddress rfl))

/-! ## Documents -/

/-- The names of the tables that settings stand in. -/
def Setting.parts : List String := ["collector", "web"]

/-- Whether a document has the form of settings: it is a table whose keys are texts, and what stands
under the names of tables are tables. -/
structure Document.IsSettings (d : Document) : Prop where
  /-- It is a table. -/
  isTable : ∃ entries, d = .table entries
  /-- Its keys are texts. -/
  isNamed : ∀ key ∈ Keyed.keys d.entries, Settings.isNamed key = true
  /-- Its parts are tables. -/
  hasTables : ∀ part ∈ Setting.parts, ∀ inner, d.get? part = some inner →
    ∃ entries, inner = .table entries

/-- A part gives its settings exactly if it is a table or not there, and each of them can be
read. -/
theorem part_eq_ok_iff {α : Type} {entries : Keyed Key Document} {p name : String}
    {read : List String → Keyed Key Document → Except (List Located) α} {fallback a : α}
    {s : Settings} (hempty : read [p] [] = .ok fallback)
    (hread : ∀ inner, read [p] inner = .ok a ↔ ∀ k : Setting, k.part? = some p →
      k.found (Keyed.get? inner (.name k.key)) k.fallback = .ok (s.get k)) :
    part entries p name read fallback = .ok a ↔
      (∀ d, Keyed.get? entries (.name p) = some d → ∃ inner, d = .table inner) ∧
        ∀ k : Setting, k.part? = some p →
          k.found (k.at? (.table entries)) k.fallback = .ok (s.get k) := by
  -- A part that is not there counts as one without entries.
  have hat (inner : Keyed Key Document)
      (hinner : ∀ name, (Keyed.get? entries (.name p)).bind (·.get? name) =
        Keyed.get? inner (.name name)) :
      (∀ k : Setting, k.part? = some p →
          k.found (k.at? (.table entries)) k.fallback = .ok (s.get k)) ↔
        read [p] inner = .ok a := by
    rw [hread]
    refine forall_congr' fun k => forall_congr' fun hk => ?_
    rw [← hinner, Setting.at?, hk]
    rfl
  unfold part
  cases hget : Keyed.get? entries (.name p) with
  | none =>
    rw [hget] at hat
    rw [hat [] fun _ => rfl, hempty]
    simp
  | some d =>
    rw [hget] at hat
    cases d with
    | table inner =>
      rw [hat inner fun _ => rfl]
      simp
    | _ => simp

/-- A table gives settings exactly if its parts are tables and each setting can be read. -/
theorem Settings.ofEntries_eq_ok_iff {entries : Keyed Key Document} {s : Settings} :
    ofEntries entries = .ok s ↔
      (∀ part ∈ Setting.parts, ∀ inner, (Document.table entries).get? part = some inner →
        ∃ below, inner = .table below) ∧
        ∀ k : Setting, k.found (k.at? (.table entries)) k.fallback = .ok (s.get k) := by
  have hcollector : part entries "collector" "CollectorConfig" CollectorSettings.ofEntries {} =
      .ok s.collector ↔ _ :=
    part_eq_ok_iff rfl fun _ => CollectorSettings.ofEntries_eq_ok_iff
  have hweb : part entries "web" "WebConfig" WebSettings.ofEntries {} = .ok s.web ↔ _ :=
    part_eq_ok_iff rfl fun _ => WebSettings.ofEntries_eq_ok_iff
  have hlevel : setting entries "log_level" (fun v => v.readText.bind checkLogLevel)
      ({} : Settings).logLevel =
        Setting.logLevel.found (Setting.logLevel.at? (.table entries)) Setting.logLevel.fallback :=
    setting_eq_found .logLevel entries
  have hall : ofEntries entries = .ok s ↔
      part entries "collector" "CollectorConfig" CollectorSettings.ofEntries {} = .ok s.collector ∧
        part entries "web" "WebConfig" WebSettings.ofEntries {} = .ok s.web ∧
        setting entries "log_level" (fun v => v.readText.bind checkLogLevel)
          ({} : Settings).logLevel = .ok s.logLevel := by
    unfold ofEntries
    simp only
    split
    · next hc hw hl =>
      rw [hc, hw, hl]
      simp only [Except.ok.injEq]
      constructor
      · rintro rfl
        exact ⟨rfl, rfl, rfl⟩
      · rintro ⟨rfl, rfl, rfl⟩
        rfl
    · next hnone =>
      constructor
      · intro h
        cases h
      · rintro ⟨hc, hw, hl⟩
        exact absurd hl (hnone _ _ _ hc hw)
  -- Each part is known from its own settings, so it is left to sort the settings by their parts.
  rw [hall, hcollector, hweb, hlevel]
  constructor
  · rintro ⟨⟨hctable, hc⟩, ⟨hwtable, hw⟩, hl⟩
    refine ⟨fun part hpart inner hinner => ?_, fun k => ?_⟩
    · rw [Setting.parts, List.mem_cons, List.mem_singleton] at hpart
      rcases hpart with rfl | rfl
      · exact hctable inner hinner
      · exact hwtable inner hinner
    · cases k with
      | logLevel => exact hl
      | listenAddress | telemetryPath => exact hw _ rfl
      | stem | command | queryFieldNames | shutdownOnError | commandTimeout => exact hc _ rfl
  · rintro ⟨htables, h⟩
    exact ⟨⟨htables "collector" (by simp [Setting.parts]), fun k _ => h k⟩,
      ⟨htables "web" (by simp [Setting.parts]), fun k _ => h k⟩, h .logLevel⟩

/-- A document gives settings exactly if it has their form and each setting can be read. Each
setting is then what was read. -/
theorem Settings.ofDocument_eq_ok_iff {d : Document} {s : Settings} :
    ofDocument d = .ok s ↔
      d.IsSettings ∧ ∀ k : Setting, k.found (k.at? d) k.fallback = .ok (s.get k) := by
  constructor
  · intro h
    cases d with
    | table entries =>
      by_cases hnamed : (entries.all fun e => isNamed e.1) = true
      · rw [ofDocument, if_pos hnamed] at h
        obtain ⟨htables, hfound⟩ := ofEntries_eq_ok_iff.mp (mapError_eq_ok_iff.mp h)
        refine ⟨⟨⟨entries, rfl⟩, fun key hkey => ?_, htables⟩, hfound⟩
        obtain ⟨e, he, rfl⟩ := List.mem_map.mp hkey
        exact List.all_eq_true.mp hnamed e he
      · rw [ofDocument, if_neg hnamed] at h
        cases h
    | _ => cases h
  · rintro ⟨⟨⟨entries, rfl⟩, hnamed, htables⟩, hfound⟩
    have hall : (entries.all fun e => isNamed e.1) = true :=
      List.all_eq_true.mpr fun e he => hnamed e.1 (List.mem_map_of_mem he)
    rw [ofDocument, if_pos hall, mapError_eq_ok_iff]
    exact ofEntries_eq_ok_iff.mpr ⟨htables, hfound⟩

/-! ## Settings that were accepted -/

/-- Whether each of some settings accepts what it holds. -/
def Settings.Accepted (s : Settings) : Prop :=
  ∀ k : Setting, k.read (k.write (s.get k)) = .ok (s.get k)

/-- The default settings are accepted. -/
theorem Settings.accepted_default : Settings.Accepted {} := Setting.read_write_fallback

/-- Settings that come from a document are accepted. -/
theorem Settings.accepted_of_ofDocument {d : Document} {s : Settings} (h : ofDocument d = .ok s) :
    s.Accepted := by
  intro k
  have hfound := (ofDocument_eq_ok_iff.mp h).2 k
  revert hfound
  generalize s.get k = v
  intro hfound
  cases hat : k.at? d with
  | none =>
    rw [hat] at hfound
    cases hfound
    exact k.read_write_fallback
  | some inner =>
    rw [hat] at hfound
    exact Setting.read_write hfound

end GpuMetrics
