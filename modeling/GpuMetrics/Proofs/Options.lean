import GpuMetrics.Proofs.Layers

/-!
# The layer of the command line

The layer of the command line is put together from the options that were given. No name stands twice
in it, so that it can be laid over settings (`Arguments.isLayer_layer`), and it has just the values
of the options: what is found in the place of a setting is what the option of that setting says, if
it was given (`at?_arguments`).
-/

namespace GpuMetrics

/-! ## Tables of named values -/

namespace Document

variable (fields more : List (String × Document))

/-- In two lists of named values one after the other, a name is looked up in the first and then in
the second. -/
theorem get?_ofFields_append (name : String) :
    (ofFields (fields ++ more)).get? name =
      ((ofFields fields).get? name).or ((ofFields more).get? name) := by
  have hentries : (ofFields (fields ++ more)).entries =
      (ofFields fields).entries ++ (ofFields more).entries := List.map_append
  rw [get?, hentries, Keyed.get?_append]
  rfl

/-- A single named value is found under its name. -/
theorem get?_ofFields_singleton (key name : String) (d : Document) :
    (ofFields [(key, d)]).get? name = if key = name then some d else none := by
  have hget : (ofFields [(key, d)]).get? name = if Key.name key = Key.name name then some d
    else none := rfl
  rw [hget]
  simp only [Key.name_inj]

variable {fields}

/-- The keys of a table of named values are texts. -/
theorem isNamed_of_mem_keys {key : Key} (h : key ∈ Keyed.keys (ofFields fields).entries) :
    Settings.isNamed key = true := by
  obtain ⟨e, he, rfl⟩ := List.mem_map.mp h
  obtain ⟨field, -, rfl⟩ := List.mem_map.mp he
  rfl

/-- If no name stands twice, no key of the table does. -/
theorem nodup_keys_ofFields (h : (fields.map (·.1)).Nodup) :
    (Keyed.keys (ofFields fields).entries).Nodup := by
  have hkeys : Keyed.keys (ofFields fields).entries =
      (fields.map (·.1)).map fun name : String => Key.name name := by
    show List.map _ (List.map _ fields) = _
    rw [List.map_map, List.map_map]
    rfl
  rw [hkeys]
  refine List.Pairwise.map (fun name : String => Key.name name) (fun s t hne hname => ?_) h
  exact hne (Key.name_inj.mp hname)

end Document

/-! ## The layer of the command line -/

namespace CommandLine

/-- What an option that was given says. A value that was taken back is an empty list. -/
def Given.written {α : Type} (document : α → Document) : Given α → Document
  | value a => document a
  | nothing => .list []

namespace Arguments

variable (a : Arguments)

/-- What the command line says on a setting. There is no option for the stem, the option for
shutdowns can ask for them only, and a level of the log that was taken back counts as if it were not
given. -/
def given? : Setting → Option Document
  | .stem => none
  | .command => a.command.map (Given.written .ofString)
  | .queryFieldNames => a.queryFieldNames.map (Given.written .ofString)
  | .shutdownOnError => if a.shutdownOnError then some (.flag true) else none
  | .commandTimeout => a.commandTimeout.map (Given.written .number)
  | .listenAddress => a.listenAddress.map (Given.written .ofString)
  | .telemetryPath => a.telemetryPath.map (Given.written .ofString)
  | .logLevel =>
    match a.logLevel with
    | some (.value level) => some (.text level)
    | _ => none

section Fields

variable {α : Type} (document : α → Document) (key name : String) (given : Option (Given α))
  (fields : List (String × Document))

/-- What was given for an option is found under its name. -/
theorem get?_field : (Document.ofFields (field document key given)).get? name =
    if key = name then given.map (Given.written document) else none := by
  cases given with
  | none => exact (ite_self none).symm
  | some g => cases g <;> exact Document.get?_ofFields_singleton key name _

/-- An option has at most one value. -/
theorem names_field : ((field document key given).map (·.1)).Sublist [key] := by
  cases given with
  | none => exact List.nil_sublist _
  | some g => cases g <;> exact List.Sublist.refl _

/-- What is found under a name of a part, whether or not the part is there. -/
theorem bind_get?_partOf :
    ((Document.ofFields (partOf key fields)).get? key).bind (fun inner => inner.get? name) =
      (Document.ofFields fields).get? name := by
  unfold partOf
  split
  · next hempty =>
    rw [List.isEmpty_iff.mp hempty]
    rfl
  · rw [Document.get?_ofFields_singleton, if_pos rfl]
    rfl

/-- A part is found under its own name only. -/
theorem get?_partOf_of_ne (hne : key ≠ name) :
    (Document.ofFields (partOf key fields)).get? name = none := by
  unfold partOf
  split
  · rfl
  · rw [Document.get?_ofFields_singleton, if_neg hne]

variable {key name fields} in
/-- A part that is there is the table of its values. -/
theorem eq_of_get?_partOf {inner : Document}
    (h : (Document.ofFields (partOf key fields)).get? name = some inner) :
    inner = .ofFields fields := by
  unfold partOf at h
  split at h
  · cases h
  · rw [Document.get?_ofFields_singleton] at h
    split at h
    · cases h
      rfl
    · cases h

/-- A part has at most its own name. -/
theorem names_partOf : ((partOf key fields).map (·.1)).Sublist [key] := by
  unfold partOf
  split
  · exact List.nil_sublist _
  · exact List.Sublist.refl _

end Fields

/-- The level of the log that was given is found under its name. -/
theorem get?_levelFields (name : String) : (Document.ofFields a.levelFields).get? name =
    if "log_level" = name then a.given? .logLevel else none := by
  simp only [levelFields, given?]
  cases a.logLevel with
  | none => exact (ite_self none).symm
  | some given =>
    cases given with
    | value level => exact Document.get?_ofFields_singleton _ _ _
    | nothing => exact (ite_self none).symm

/-- There is at most one level of the log. -/
theorem names_levelFields : (a.levelFields.map (·.1)).Sublist ["log_level"] := by
  unfold levelFields
  split
  · exact List.Sublist.refl _
  · exact List.nil_sublist _

/-- No name stands twice among the settings of the collector. -/
theorem nodup_collectorFields : (a.collectorFields.map (·.1)).Nodup := by
  have hflag : ((if a.shutdownOnError then [("shutdown_on_error", Document.flag true)] else []).map
      (·.1)).Sublist ["shutdown_on_error"] := by
    split
    · exact List.Sublist.refl _
    · exact List.nil_sublist _
  have hnames : (a.collectorFields.map (·.1)).Sublist
      ["nvidia_smi_command", "query_field_names", "shutdown_on_error", "command_timeout"] := by
    unfold collectorFields
    rw [List.map_append, List.map_append, List.map_append]
    exact (((names_field _ _ _).append (names_field _ _ _)).append hflag).append
      (names_field _ _ _)
  exact hnames.nodup (by decide)

/-- No name stands twice among the settings of the web server. -/
theorem nodup_webFields : (a.webFields.map (·.1)).Nodup := by
  have hnames : (a.webFields.map (·.1)).Sublist ["listen_address", "telemetry_path"] := by
    unfold webFields
    rw [List.map_append]
    exact (names_field _ _ _).append (names_field _ _ _)
  exact hnames.nodup (by decide)

/-- What is found under a name in the layer of the command line. -/
theorem get?_layer (name : String) : a.layer.get? name =
    (((Document.ofFields (partOf "collector" a.collectorFields)).get? name).or
      ((Document.ofFields (partOf "web" a.webFields)).get? name)).or
        ((Document.ofFields a.levelFields).get? name) := by
  rw [layer, Document.get?_ofFields_append, Document.get?_ofFields_append]

/-- The part of the collector in the layer of the command line. -/
theorem get?_layer_collector : a.layer.get? "collector" =
    (Document.ofFields (partOf "collector" a.collectorFields)).get? "collector" := by
  rw [get?_layer, get?_partOf_of_ne "web" "collector" _ (by decide), get?_levelFields,
    if_neg (by decide), Option.or_none, Option.or_none]

/-- The part of the web server in the layer of the command line. -/
theorem get?_layer_web : a.layer.get? "web" =
    (Document.ofFields (partOf "web" a.webFields)).get? "web" := by
  rw [get?_layer, get?_partOf_of_ne "collector" "web" _ (by decide), get?_levelFields,
    if_neg (by decide), Option.none_or, Option.or_none]

/-- The command line makes a layer. -/
theorem isLayer_layer : a.layer.IsLayer := by
  have hparts : ∀ part ∈ Setting.parts, ∀ inner, a.layer.get? part = some inner →
      ∃ fields, inner = .ofFields fields ∧ (fields.map (·.1)).Nodup := by
    intro part hpart inner hinner
    rw [Setting.parts, List.mem_cons, List.mem_singleton] at hpart
    rcases hpart with rfl | rfl
    · rw [get?_layer_collector] at hinner
      exact ⟨_, eq_of_get?_partOf hinner, a.nodup_collectorFields⟩
    · rw [get?_layer_web] at hinner
      exact ⟨_, eq_of_get?_partOf hinner, a.nodup_webFields⟩
  refine ⟨⟨⟨_, rfl⟩, fun key hkey => Document.isNamed_of_mem_keys hkey, ?_⟩, ?_, ?_⟩
  · intro part hpart inner hinner
    obtain ⟨fields, rfl, -⟩ := hparts part hpart inner hinner
    exact ⟨_, rfl⟩
  · refine Document.nodup_keys_ofFields ?_
    rw [List.map_append, List.map_append]
    have hnames := ((names_partOf "collector" a.collectorFields).append
      (names_partOf "web" a.webFields)).append a.names_levelFields
    exact hnames.nodup (by decide)
  · intro part hpart inner hinner
    obtain ⟨fields, rfl, hnodup⟩ := hparts part hpart inner hinner
    exact Document.nodup_keys_ofFields hnodup

/-- A setting of the collector in the layer of the command line. -/
theorem at?_layer_collector {k : Setting} (hk : k.part? = some "collector") :
    k.at? a.layer = (Document.ofFields a.collectorFields).get? k.key := by
  rw [Setting.at?, hk]
  simp only
  rw [get?_layer_collector, bind_get?_partOf]

/-- A setting of the web server in the layer of the command line. -/
theorem at?_layer_web {k : Setting} (hk : k.part? = some "web") :
    k.at? a.layer = (Document.ofFields a.webFields).get? k.key := by
  rw [Setting.at?, hk]
  simp only
  rw [get?_layer_web, bind_get?_partOf]

/-- What the command line says on a setting of the collector is found under its name. -/
theorem get?_collectorFields (name : String) : (Document.ofFields a.collectorFields).get? name =
    (((if "nvidia_smi_command" = name then a.given? .command else none).or
      (if "query_field_names" = name then a.given? .queryFieldNames else none)).or
        (if "shutdown_on_error" = name then a.given? .shutdownOnError else none)).or
          (if "command_timeout" = name then a.given? .commandTimeout else none) := by
  have hflag : (Document.ofFields
      (if a.shutdownOnError then [("shutdown_on_error", Document.flag true)] else [])).get? name =
        if "shutdown_on_error" = name then a.given? .shutdownOnError else none := by
    unfold given?
    split
    · exact Document.get?_ofFields_singleton _ _ _
    · exact (ite_self none).symm
  rw [collectorFields, Document.get?_ofFields_append, Document.get?_ofFields_append,
    Document.get?_ofFields_append, get?_field, get?_field, get?_field, hflag]
  rfl

/-- What the command line says on a setting of the web server is found under its name. -/
theorem get?_webFields (name : String) : (Document.ofFields a.webFields).get? name =
    (if "listen_address" = name then a.given? .listenAddress else none).or
      (if "telemetry_path" = name then a.given? .telemetryPath else none) := by
  rw [webFields, Document.get?_ofFields_append, get?_field, get?_field]
  rfl

end Arguments

/-- The value of a setting in the layer of the command line is what its option says. -/
theorem at?_arguments (a : Arguments) (k : Setting) : k.at? a.layer = a.given? k := by
  cases k with
  | stem | command | queryFieldNames | shutdownOnError | commandTimeout =>
    rw [Arguments.at?_layer_collector a rfl, Arguments.get?_collectorFields]
    simp [Setting.key, Arguments.given?]
  | listenAddress | telemetryPath =>
    rw [Arguments.at?_layer_web a rfl, Arguments.get?_webFields]
    simp [Setting.key]
  | logLevel =>
    show a.layer.get? "log_level" = _
    rw [Arguments.get?_layer, Arguments.get?_partOf_of_ne "collector" _ _ (by decide),
      Arguments.get?_partOf_of_ne "web" _ _ (by decide), Arguments.get?_levelFields, if_pos rfl,
      Option.none_or, Option.none_or]

end CommandLine

end GpuMetrics
