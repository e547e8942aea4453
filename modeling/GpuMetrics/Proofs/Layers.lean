import GpuMetrics.CommandLine.Settings
import GpuMetrics.Proofs.Overlay
import GpuMetrics.Proofs.Setting

/-!
# Settings from layers

The layers of settings are laid over each other as documents, and the whole is read again after each
of them. Here each layer is looked at one setting at a time. A layer is a table with its values in
their places and nothing twice (`Document.IsLayer`); laid over settings that were accepted, it
changes those that it has a value for, if they accept it, and leaves all others as they are
(`Settings.overlaid_eq_ok_iff`).

The layer of the variables is put together from those that are set and not empty, one after the
other, and has just their values (`at?_environment`).
-/

namespace GpuMetrics

/-! ## Layers as documents -/

/-- Whether a document can be laid over settings: it has their form, and no key stands twice in it
or in one of its parts. -/
structure Document.IsLayer (d : Document) : Prop extends d.IsSettings where
  /-- No key stands twice. -/
  nodup : (Keyed.keys d.entries).Nodup
  /-- No key of a part stands twice. -/
  nodupParts : ∀ part ∈ Setting.parts, ∀ inner, d.get? part = some inner →
    (Keyed.keys inner.entries).Nodup

namespace Setting

/-- The table that a setting stands in is one of the parts. -/
theorem mem_parts {k : Setting} {part : String} (h : k.part? = some part) : part ∈ parts := by
  cases k <;> cases h <;> decide

/-- What a setting holds is written as no table. -/
theorem isPlain_write (k : Setting) (v : k.Value) : (k.write v).IsPlain := by
  cases k <;> exact fun _ h => nomatch h

/-- Settings have a value for each setting in their document. -/
theorem at?_document (k : Setting) (s : Settings) :
    k.at? s.document = some (k.write (s.get k)) := by
  cases k <;> rfl

/-- The value of a setting in a layer that is laid over settings is that of the layer, if it has
one. -/
theorem at?_overlay {layer : Document} (hlayer : layer.IsLayer) (k : Setting) {below : Document}
    (hbelow : below.IsSettings) (hplain : ∀ d, k.at? below = some d → d.IsPlain) :
    k.at? (layer.overlay below) = (k.at? layer).or (k.at? below) := by
  obtain ⟨upper, rfl⟩ := hlayer.isTable
  obtain ⟨lower, rfl⟩ := hbelow.isTable
  have hnodup : (Keyed.keys upper).Nodup := hlayer.nodup
  unfold at? at hplain ⊢
  cases hpart : k.part? with
  | none =>
    rw [hpart] at hplain
    exact Document.get?_overlay_of_plain hnodup hplain
  | some part =>
    rw [hpart] at hplain
    simp only at hplain ⊢
    have hmem := mem_parts hpart
    rw [Document.get?_overlay_table hnodup]
    cases hup : (Document.table upper).get? part with
    | none => exact Option.none_or.symm
    | some inner =>
      obtain ⟨above, rfl⟩ := hlayer.hasTables part hmem inner hup
      cases hlow : (Document.table lower).get? part with
      | none => exact Option.or_none.symm
      | some old =>
        obtain ⟨under, rfl⟩ := hbelow.hasTables part hmem old hlow
        rw [hlow] at hplain
        -- Both have the part, so the value is looked up in one laid over the other.
        exact Document.get?_overlay_of_plain (hlayer.nodupParts part hmem _ hup) hplain

end Setting

/-- A layer that is laid over a document with the form of settings keeps that form. -/
theorem Document.IsLayer.isSettings_overlay {layer below : Document} (hlayer : layer.IsLayer)
    (hbelow : below.IsSettings) : (layer.overlay below).IsSettings := by
  obtain ⟨upper, rfl⟩ := hlayer.isTable
  obtain ⟨lower, rfl⟩ := hbelow.isTable
  have hnodup : (Keyed.keys upper).Nodup := hlayer.nodup
  refine ⟨⟨overlayEntries upper lower, rfl⟩, fun key hkey => ?_, fun part hpart inner hinner => ?_⟩
  · rcases mem_keys_overlay.mp hkey with hkey | hkey
    · exact hbelow.isNamed key hkey
    · exact hlayer.isNamed key hkey
  · rw [get?_overlay_table hnodup] at hinner
    cases hup : (table upper).get? part with
    | none =>
      rw [hup] at hinner
      exact hbelow.hasTables part hpart inner hinner
    | some d =>
      obtain ⟨above, rfl⟩ := hlayer.hasTables part hpart d hup
      rw [hup] at hinner
      cases hlow : (table lower).get? part with
      | none =>
        rw [hlow] at hinner
        cases hinner
        exact ⟨above, rfl⟩
      | some old =>
        obtain ⟨under, rfl⟩ := hbelow.hasTables part hpart old hlow
        rw [hlow] at hinner
        cases hinner
        exact ⟨_, rfl⟩

/-- The document of settings has their form. -/
theorem Settings.isSettings_document (s : Settings) : s.document.IsSettings where
  isTable := ⟨_, rfl⟩
  isNamed := fun key hkey => by
    have hkeys : Keyed.keys s.document.entries =
        [.name "collector", .name "web", .name "log_level"] := rfl
    rw [hkeys] at hkey
    revert key
    decide
  hasTables := fun part hpart inner hinner => by
    rw [Setting.parts, List.mem_cons, List.mem_singleton] at hpart
    rcases hpart with rfl | rfl <;> cases hinner <;> exact ⟨_, rfl⟩

/-- A layer over accepted settings gives settings exactly if each setting accepts the value that the
layer has for it. A setting that the layer has no value for stays as it is. -/
theorem Settings.overlaid_eq_ok_iff {s s' : Settings} (hs : s.Accepted) {layer : Document}
    (hlayer : layer.IsLayer) : s.overlaid layer = .ok s' ↔
      ∀ k : Setting, k.found (k.at? layer) (s.get k) = .ok (s'.get k) := by
  obtain ⟨entries, rfl⟩ := hlayer.isTable
  have hover : s.overlaid (.table entries) =
      ofDocument ((Document.table entries).overlay s.document) := rfl
  rw [hover, ofDocument_eq_ok_iff]
  have hform := hlayer.isSettings_overlay s.isSettings_document
  simp only [hform, true_and]
  refine forall_congr' fun k => ?_
  have hplain : ∀ d, k.at? s.document = some d → d.IsPlain := by
    intro d hd
    rw [Setting.at?_document] at hd
    cases hd
    exact k.isPlain_write _
  rw [Setting.at?_overlay hlayer k s.isSettings_document hplain, Setting.at?_document]
  cases k.at? (.table entries) with
  | some d => rfl
  | none =>
    -- The setting is read again from its own document, where it is found as it was.
    have hagain : k.found (some (k.write (s.get k))) k.fallback = .ok (s.get k) := hs k
    rw [Option.none_or, hagain]
    rfl

/-! ## Names and places -/

/-- Keys that are strings are the same if the strings are. -/
theorem Key.name_inj {s t : String} : Key.name s = Key.name t ↔ s = t := by
  simp only [Key.name.injEq, Text.Wording.mk.injEq, and_true]

/-- A value that is put under a name is found there, and nothing else changes. -/
theorem Document.get?_put (top : Keyed Key Document) (name other : String) (d : Document) :
    (table (Keyed.put top (.name name) d)).get? other =
      if name = other then some d else (table top).get? other := by
  have hput := Keyed.get?_put top (.name name) (.name other) d
  simp only [Key.name_inj] at hput
  exact hput

/-- A layer in which a value is put under a name is a layer, if the names of parts get tables in
which no key stands twice. -/
theorem Document.IsLayer.put {top : Keyed Key Document} (htop : (table top).IsLayer)
    {name : String} {d : Document}
    (hd : name ∈ Setting.parts → ∃ inner, d = table inner ∧ (Keyed.keys inner).Nodup) :
    (table (Keyed.put top (.name name) d)).IsLayer := by
  have hparts : ∀ part ∈ Setting.parts, ∀ inner,
      (table (Keyed.put top (.name name) d)).get? part = some inner →
        (∃ entries, inner = table entries) ∧ (Keyed.keys inner.entries).Nodup := by
    intro part hpart inner hinner
    rw [get?_put] at hinner
    split at hinner
    · next hname =>
      obtain ⟨entries, rfl, hnodup⟩ := hd (hname ▸ hpart)
      cases hinner
      exact ⟨⟨entries, rfl⟩, hnodup⟩
    · exact ⟨htop.hasTables part hpart inner hinner, htop.nodupParts part hpart inner hinner⟩
  refine ⟨⟨⟨_, rfl⟩, fun key hkey => ?_, fun part hpart inner hinner => ?_⟩,
    Keyed.nodup_keys_put htop.nodup _ _, fun part hpart inner hinner => ?_⟩
  · rcases Keyed.mem_keys_put.mp hkey with hkey | rfl
    · exact htop.isNamed key hkey
    · rfl
  · exact (hparts part hpart inner hinner).1
  · exact (hparts part hpart inner hinner).2

namespace Setting

/-- Each setting is one of all. -/
theorem mem_all (k : Setting) : k ∈ all := by
  cases k <;> decide

/-- A setting is known by the place of its value. -/
theorem eq_of_place {j k : Setting} (hpart : j.part? = k.part?) (hkey : j.key = k.key) : j = k := by
  have hplaces : ∀ j ∈ all, ∀ k ∈ all, j.part? = k.part? → j.key = k.key → j = k := by decide
  exact hplaces j j.mem_all k k.mem_all hpart hkey

/-- A setting that stands in no part has not the name of a part. -/
theorem key_ne_part {k : Setting} (hk : k.part? = none) {part : String} (hpart : part ∈ parts) :
    k.key ≠ part := by
  have hkeys : ∀ k ∈ all, k.part? = none → ∀ part ∈ parts, k.key ≠ part := by decide
  exact hkeys k k.mem_all hk part hpart

/-- The variable of a setting, without what the names of all variables begin with. -/
def ending : Setting → String
  | stem => "PREFIX"
  | command => "NVIDIA_SMI_COMMAND"
  | queryFieldNames => "QUERY_FIELD_NAMES"
  | shutdownOnError => "SHUTDOWN_ON_ERROR"
  | commandTimeout => "COMMAND_TIMEOUT"
  | listenAddress => "LISTEN_ADDRESS"
  | telemetryPath => "TELEMETRY_PATH"
  | logLevel => "LOG_LEVEL"

end Setting

/-! ## The layer of the variables -/

namespace Environment

variable (env : Environment)

/-- What the variable of a setting says. A variable that is not set or empty says nothing. -/
def given? (k : Setting) : Option Document :=
  match Keyed.get? env (stem ++ k.ending) with
  | none => none
  | some v => if v.isEmpty then none else some (.text v)

/-- A table with the value of the variable of a setting put in its place, if it has one. -/
def taken (top : Keyed Key Document) (k : Setting) : Keyed Key Document :=
  match Keyed.get? env (stem ++ k.ending) with
  | none => top
  | some v => if v.isEmpty then top else place top k.part? k.key v

/-- The layer takes the variables of all settings one after the other. -/
theorem layer_eq : env.layer = .table (Setting.all.foldl env.taken []) := by
  have hnames : settingNames = Setting.all.map fun k => (k.ending, k.part?, k.key) := rfl
  rw [layer, hnames, List.foldl_map]
  rfl

variable {env} {top : Keyed Key Document}

/-- The entries of a part, which has none if it is not there. -/
def partEntries (top : Keyed Key Document) (part : String) : Keyed Key Document :=
  ((Keyed.get? top (.name part)).map Document.entries).getD []

/-- What is found in a part is found among its entries. -/
theorem get?_partEntries (part key : String) :
    (Document.table (partEntries top part)).get? key =
      ((Document.table top).get? part).bind fun inner => inner.get? key := by
  have hpart : (Document.table top).get? part = Keyed.get? top (.name part) := rfl
  rw [partEntries, hpart]
  cases Keyed.get? top (.name part) <;> rfl

/-- A value that is put under a key of a table is found there. -/
theorem get?_place_top (key : String) (v : Text.Wording) (name : String) :
    (Document.table (place top none key v)).get? name =
      if key = name then some (.text v) else (Document.table top).get? name :=
  Document.get?_put top key name (.text v)

/-- A value that is put under a key of a part changes this part and nothing else. -/
theorem get?_place_part (part key : String) (v : Text.Wording) (name : String) :
    (Document.table (place top (some part) key v)).get? name =
      if part = name then some (.table (Keyed.put (partEntries top part) (.name key) (.text v)))
      else (Document.table top).get? name :=
  Document.get?_put top part name _

/-- A value that is put in its place is found there, and the other values stay. -/
theorem at?_place (j k : Setting) (v : Text.Wording) :
    j.at? (.table (place top k.part? k.key v)) =
      if j = k then some (.text v) else j.at? (.table top) := by
  -- In one and the same table, the key decides which setting it is.
  have hkey (hpart : j.part? = k.part?) : k.key = j.key ↔ j = k := by
    constructor
    · exact fun h => Setting.eq_of_place hpart h.symm
    · rintro rfl
      rfl
  have hother (hpart : j.part? ≠ k.part?) : j ≠ k := fun h => hpart (congrArg Setting.part? h)
  unfold Setting.at?
  cases hk : k.part? with
  | none =>
    cases hj : j.part? with
    | none =>
      simp only [get?_place_top, hkey (hj.trans hk.symm)]
    | some part =>
      have hne : k.key ≠ part := Setting.key_ne_part hk (Setting.mem_parts hj)
      simp only [get?_place_top, hne, hother (by rw [hj, hk]; exact Option.some_ne_none part),
        if_false]
  | some part =>
    cases hj : j.part? with
    | none =>
      have hne : part ≠ j.key := (Setting.key_ne_part hj (Setting.mem_parts hk)).symm
      simp only [get?_place_part, hne,
        hother (by rw [hj, hk]; exact (Option.some_ne_none part).symm), if_false]
    | some other =>
      by_cases hparts : part = other
      · subst hparts
        simp only [get?_place_part, if_true, Option.bind_some, Document.get?_put,
          get?_partEntries, hkey (hj.trans hk.symm)]
      · have hjk : j ≠ k := hother (by rw [hj, hk]; exact fun h => hparts (Option.some.inj h).symm)
        simp only [get?_place_part, hparts, hjk, if_false]

/-- A layer in which a value is put in its place is a layer. -/
theorem isLayer_place (htop : (Document.table top).IsLayer) (k : Setting) (v : Text.Wording) :
    (Document.table (place top k.part? k.key v)).IsLayer := by
  cases hk : k.part? with
  | none => exact htop.put fun hpart => absurd rfl (Setting.key_ne_part hk hpart)
  | some part =>
    refine htop.put fun hpart => ⟨_, rfl, Keyed.nodup_keys_put ?_ _ _⟩
    show (Keyed.keys (partEntries top part)).Nodup
    unfold partEntries
    cases hget : Keyed.get? top (.name part) with
    | none => exact List.nodup_nil
    | some inner => exact htop.nodupParts part hpart inner hget

/-- The variable of a setting adds its value to a layer. -/
theorem taken_spec (htop : (Document.table top).IsLayer) (k : Setting) :
    (Document.table (env.taken top k)).IsLayer ∧
      ∀ j : Setting, j.at? (.table (env.taken top k)) =
        if j = k then (env.given? j).or (j.at? (.table top)) else j.at? (.table top) := by
  have hnone (h : env.taken top k = top) (hgiven : env.given? k = none) :
      (Document.table (env.taken top k)).IsLayer ∧
        ∀ j : Setting, j.at? (.table (env.taken top k)) =
          if j = k then (env.given? j).or (j.at? (.table top)) else j.at? (.table top) := by
    rw [h]
    refine ⟨htop, fun j => ?_⟩
    split
    · next hj => rw [hj, hgiven, Option.none_or]
    · rfl
  cases hget : Keyed.get? env (stem ++ k.ending) with
  | none => exact hnone (by rw [taken, hget]) (by rw [given?, hget])
  | some v =>
    by_cases hempty : v.isEmpty = true
    · exact hnone (by simp [taken, hget, hempty]) (by simp [given?, hget, hempty])
    · have htaken : env.taken top k = place top k.part? k.key v := by simp [taken, hget, hempty]
      have hgiven : env.given? k = some (.text v) := by simp [given?, hget, hempty]
      rw [htaken]
      refine ⟨isLayer_place htop k v, fun j => ?_⟩
      rw [at?_place]
      split
      · next hj => rw [hj, hgiven, Option.some_or]
      · rfl

/-- The variables of some settings, taken one after the other, add their values to a layer. -/
theorem foldl_taken (htop : (Document.table top).IsLayer) (ks : List Setting) :
    (Document.table (ks.foldl env.taken top)).IsLayer ∧
      ∀ j : Setting, j.at? (.table (ks.foldl env.taken top)) =
        if j ∈ ks then (env.given? j).or (j.at? (.table top)) else j.at? (.table top) := by
  induction ks generalizing top with
  | nil => exact ⟨htop, fun j => rfl⟩
  | cons k rest ih =>
    obtain ⟨hlayer, hat⟩ : (Document.table (env.taken top k)).IsLayer ∧ _ := taken_spec htop k
    obtain ⟨hrest, hatRest⟩ := ih hlayer
    refine ⟨hrest, fun j => ?_⟩
    rw [List.foldl_cons, hatRest, hat]
    simp only [List.mem_cons]
    by_cases hj : j = k
    · -- A variable that is taken twice says the same again.
      by_cases hmem : j ∈ rest
      · rw [if_pos hmem, if_pos hj, if_pos (.inl hj), ← Option.or_assoc, Option.or_self]
      · rw [if_neg hmem, if_pos hj, if_pos (.inl hj)]
    · by_cases hmem : j ∈ rest
      · rw [if_pos hmem, if_neg hj, if_pos (.inr hmem)]
      · rw [if_neg hmem, if_neg hj, if_neg (not_or.mpr ⟨hj, hmem⟩)]

end Environment

/-- An empty table is a layer. -/
theorem Document.isLayer_empty : (Document.table []).IsLayer where
  isTable := ⟨[], rfl⟩
  isNamed := fun _ h => nomatch h
  hasTables := fun _ _ _ h => nomatch h
  nodup := List.nodup_nil
  nodupParts := fun _ _ _ h => nomatch h

/-- An empty table has no value for any setting. -/
theorem Setting.at?_empty (k : Setting) : k.at? (.table []) = none := by
  cases k <;> rfl

/-- The variables make a layer. -/
theorem Environment.isLayer_layer (env : Environment) : env.layer.IsLayer := by
  rw [layer_eq]
  exact (foldl_taken Document.isLayer_empty Setting.all).1

/-- The value of a setting in the layer of the variables is what its variable says. -/
theorem at?_environment (env : Environment) (k : Setting) : k.at? env.layer = env.given? k := by
  rw [Environment.layer_eq, (Environment.foldl_taken Document.isLayer_empty Setting.all).2,
    if_pos k.mem_all, k.at?_empty, Option.or_none]

end GpuMetrics
