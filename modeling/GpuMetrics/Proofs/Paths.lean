import GpuMetrics.Proofs.Overlay

/-!
# Paths through tables laid over each other

A path is a row of keys that is followed from table to table. Where both of two documents have a
table behind a path, what is laid over each other behind it is just these two tables
(`along?_overlay`). So the whole result is told by one rule at each such place (`PathLaw`): its keys
are those of the lower table and then the new ones, a key that the upper table lacks keeps all that
the lower one has under it, and a key under which the two have no two tables takes the upper value.
The result obeys the rule (`pathLaw_overlay`), and the rule leaves no choice (`PathLaw.eq_overlay`).

If no table has a key twice, laying the same document over a second time changes nothing
(`overlay_overlay`), and an empty table below or above changes nothing either.
-/

namespace GpuMetrics.Document

/-! ## Tables with distinct keys -/

/-- A document in which no table has a key twice, however deep in other tables it is. -/
inductive HasDistinctKeys : Document → Prop
  | /-- What is no table has no keys. -/
    plain {d : Document} (h : d.IsPlain) : HasDistinctKeys d
  | /-- A table has no key twice, and its values are such documents. -/
    table {entries : List (Key × Document)} (nodup : (Keyed.keys entries).Nodup)
      (values : ∀ e ∈ entries, HasDistinctKeys e.2) : HasDistinctKeys (table entries)

/-- A document that is no table has no entries. -/
theorem IsPlain.entries_eq {d : Document} (h : d.IsPlain) : d.entries = [] := by
  cases d with
  | table entries => exact absurd rfl (h entries)
  | _ => rfl

/-- What is found in such a document is such a document. -/
theorem HasDistinctKeys.of_get? {d found : Document} {k : Key} (h : d.HasDistinctKeys)
    (hfound : Keyed.get? d.entries k = some found) : found.HasDistinctKeys := by
  cases h with
  | plain h =>
    rw [h.entries_eq] at hfound
    cases hfound
  | table _ values => exact values _ (Keyed.mem_of_get? hfound)

/-- No key stands twice among the entries of such a document. -/
theorem HasDistinctKeys.nodup {d : Document} (h : d.HasDistinctKeys) :
    (Keyed.keys d.entries).Nodup := by
  cases h with
  | plain h =>
    rw [h.entries_eq]
    exact List.nodup_nil
  | table nodup _ => exact nodup

/-! ## Paths -/

/-- What is found in a document when the keys of a path are followed one after the other. -/
def along? (d : Document) : List Key → Option Document
  | [] => some d
  | k :: path => (Keyed.get? d.entries k).bind fun inner => inner.along? path

/-- A path of one key leads to what stands under that key. -/
theorem along?_singleton (d : Document) (k : Key) : d.along? [k] = Keyed.get? d.entries k := by
  unfold along?
  cases Keyed.get? d.entries k <;> rfl

/-- Two paths one after the other lead to what the second leads to behind the first. -/
theorem along?_append (d : Document) (path rest : List Key) :
    d.along? (path ++ rest) = (d.along? path).bind fun inner => inner.along? rest := by
  induction path generalizing d with
  | nil => rfl
  | cons k path ih =>
    rw [List.cons_append, along?, along?]
    cases Keyed.get? d.entries k with
    | none => rfl
    | some inner => exact ih inner

/-- Behind a path whose end is known, a further key is looked up there. -/
theorem along?_concat {d found : Document} {path : List Key} (h : d.along? path = some found)
    (k : Key) : d.along? (path ++ [k]) = Keyed.get? found.entries k := by
  rw [along?_append, h]
  exact along?_singleton found k

/-- Behind a path there are distinct keys as well. -/
theorem HasDistinctKeys.along {d found : Document} (h : d.HasDistinctKeys) {path : List Key}
    (hfound : d.along? path = some found) : found.HasDistinctKeys := by
  induction path generalizing d with
  | nil =>
    cases hfound
    exact h
  | cons k path ih =>
    obtain ⟨inner, hinner, hrest⟩ := Option.bind_eq_some_iff.mp hfound
    exact ih (h.of_get? hinner) hrest

/-! ## What is laid over each other behind a path -/

/-- Where both documents have something under a key, this is laid over each other. -/
theorem get?_entries_overlay {base layer lower upper : Document} {k : Key}
    (hlayer : layer.HasDistinctKeys) (hlower : Keyed.get? base.entries k = some lower)
    (hupper : Keyed.get? layer.entries k = some upper) :
    Keyed.get? (overlay layer base).entries k = some (overlay upper lower) := by
  cases layer with
  | table above =>
    cases base with
    | table below =>
      have hlower : Keyed.get? below k = some lower := hlower
      have hupper : Keyed.get? above k = some upper := hupper
      have hnodup : (Keyed.keys above).Nodup := hlayer.nodup
      show Keyed.get? (overlayEntries above below) k = some (overlay upper lower)
      rw [get?_overlay hnodup, hupper, hlower]
    | _ => cases hlower
  | _ => cases hupper

/-- Where a path leads to something in both documents, this is laid over each other. -/
theorem along?_overlay {base layer lower upper : Document} {path : List Key}
    (hlayer : layer.HasDistinctKeys) (hlower : base.along? path = some lower)
    (hupper : layer.along? path = some upper) :
    (overlay layer base).along? path = some (overlay upper lower) := by
  induction path generalizing base layer with
  | nil =>
    cases hlower
    cases hupper
    rfl
  | cons k path ih =>
    obtain ⟨below, hbelow, hlower⟩ := Option.bind_eq_some_iff.mp hlower
    obtain ⟨above, habove, hupper⟩ := Option.bind_eq_some_iff.mp hupper
    rw [along?, get?_entries_overlay hlayer hbelow habove]
    exact ih (hlayer.of_get? habove) hlower hupper

/-! ## The law -/

/-- The rule for the result of laying a document over another. A path is followed for as long as
both documents have a table behind it; `lower` and `upper` are the entries of these tables. -/
structure PathLaw (base layer result : Document) : Prop where
  /-- The result has a table there too, with the keys of the lower table in their order and then the
  new keys of the upper one in theirs. -/
  keys : ∀ path lower upper, base.along? path = some (.table lower) →
    layer.along? path = some (.table upper) → ∃ entries,
      result.along? path = some (.table entries) ∧
        Keyed.keys entries = Keyed.keys lower ++ (Keyed.keys upper).filter (· ∉ Keyed.keys lower)
  /-- Under a key that the upper table lacks is all that the lower document has there. -/
  kept : ∀ path lower upper k, base.along? path = some (.table lower) →
    layer.along? path = some (.table upper) → k ∉ Keyed.keys upper →
      result.along? (path ++ [k]) = base.along? (path ++ [k])
  /-- Under a key of the upper table is its value as a whole, unless both tables have a table
  there. -/
  taken : ∀ path lower upper k value, base.along? path = some (.table lower) →
    layer.along? path = some (.table upper) → Keyed.get? upper k = some value →
      (value.IsPlain ∨ ∀ old, Keyed.get? lower k = some old → old.IsPlain) →
        result.along? (path ++ [k]) = some value

/-- A document is a table or is none. -/
theorem isPlain_or_table (d : Document) : d.IsPlain ∨ ∃ entries, d = table entries := by
  cases d with
  | table entries => exact .inr ⟨entries, rfl⟩
  | _ => exact .inl fun _ h => nomatch h

/-- Unless both are tables, a value takes the place of what it is laid over. -/
theorem overlay_of_not_tables {d old : Document} (h : d.IsPlain ∨ old.IsPlain) :
    overlay d old = d := by
  rcases h with hplain | hplain
  · cases d with
    | table entries => exact absurd rfl (hplain entries)
    | _ => rfl
  · exact overlay_of_plain d hplain

/-- What is laid over a document follows the law. -/
theorem pathLaw_overlay {base layer : Document} (hlayer : layer.HasDistinctKeys) :
    PathLaw base layer (overlay layer base) := by
  -- Behind the path is a table laid over a table, so each rule is one about these two.
  have htables : ∀ path lower upper, base.along? path = some (.table lower) →
      layer.along? path = some (.table upper) → (Keyed.keys upper).Nodup ∧
        (overlay layer base).along? path = some (.table (overlayEntries upper lower)) := by
    intro path lower upper hlower hupper
    exact ⟨(hlayer.along hupper).nodup, along?_overlay hlayer hlower hupper⟩
  refine ⟨?keys, ?kept, ?taken⟩
  case keys =>
    intro path lower upper hlower hupper
    obtain ⟨hnodup, hpath⟩ := htables path lower upper hlower hupper
    exact ⟨_, hpath, keys_overlay hnodup lower⟩
  case kept =>
    intro path lower upper k hlower hupper hk
    obtain ⟨hnodup, hpath⟩ := htables path lower upper hlower hupper
    have hnone : Keyed.get? upper k = none := Keyed.get?_eq_none_iff.mpr hk
    rw [along?_concat hpath, along?_concat hlower, entries, get?_overlay hnodup, hnone]
    rfl
  case taken =>
    intro path lower upper k value hlower hupper hvalue hplain
    obtain ⟨hnodup, hpath⟩ := htables path lower upper hlower hupper
    rw [along?_concat hpath, entries, get?_overlay hnodup, hvalue]
    cases hold : Keyed.get? lower k with
    | none => rfl
    | some old =>
      exact congrArg some (overlay_of_not_tables (hplain.imp_right fun h => h old hold))

/-- Under a key where all three documents have something, the law holds of what they have there. -/
theorem PathLaw.under {base layer result : Document} (h : PathLaw base layer result) {k : Key}
    {lower upper inner : Document} (hlower : Keyed.get? base.entries k = some lower)
    (hupper : Keyed.get? layer.entries k = some upper)
    (hinner : Keyed.get? result.entries k = some inner) : PathLaw lower upper inner := by
  -- A path behind the key is a path of the whole documents that begins with the key.
  have hbelow (path : List Key) : base.along? (k :: path) = lower.along? path := by
    rw [along?, hlower, Option.bind_some]
  have habove (path : List Key) : layer.along? (k :: path) = upper.along? path := by
    rw [along?, hupper, Option.bind_some]
  have hresult (path : List Key) : result.along? (k :: path) = inner.along? path := by
    rw [along?, hinner, Option.bind_some]
  refine ⟨fun path => ?_, fun path => ?_, fun path => ?_⟩
  · have hkeys := h.keys (k :: path)
    rwa [hbelow, habove, hresult] at hkeys
  · have hkept := h.kept (k :: path)
    simpa only [List.cons_append, hbelow, habove, hresult] using hkept
  · have htaken := h.taken (k :: path)
    simpa only [List.cons_append, hbelow, habove, hresult] using htaken

/-- For two tables, nothing but what is laid over each other follows the law. -/
theorem PathLaw.eq_overlay {upper lower : List (Key × Document)} {result : Document}
    (hupper : (table upper).HasDistinctKeys) (hlower : (table lower).HasDistinctKeys)
    (h : PathLaw (table lower) (table upper) result) :
    result = overlay (table upper) (table lower) := by
  -- The induction is on the upper table: its inner tables are where the law is used again.
  generalize hd : table upper = d at hupper h
  induction hupper generalizing upper lower result with
  | plain hplain => exact absurd hd.symm (hplain upper)
  | @table above nodup values ih =>
    obtain rfl : upper = above := Document.table.inj hd
    obtain ⟨entries, hresult, hkeys⟩ := h.keys [] lower upper rfl rfl
    obtain rfl : result = table entries := Option.some.inj hresult
    have hsame : Keyed.keys entries = Keyed.keys (overlayEntries upper lower) := by
      rw [hkeys, keys_overlay nodup]
    have hdistinct : (Keyed.keys entries).Nodup := by
      rw [hsame]
      exact nodup_keys_overlay nodup hlower.nodup
    refine congrArg table (Keyed.eq_of_get?_eq hsame hdistinct fun k => ?_)
    rw [get?_overlay nodup]
    cases hvalue : Keyed.get? upper k with
    | none =>
      have hkept := h.kept [] lower upper k rfl rfl (Keyed.get?_eq_none_iff.mp hvalue)
      rwa [List.nil_append, along?_singleton, along?_singleton] at hkept
    | some value =>
      have htaken := h.taken [] lower upper k value rfl rfl hvalue
      rw [List.nil_append, along?_singleton] at htaken
      cases hold : Keyed.get? lower k with
      | none => exact htaken (.inr fun old h => by rw [hold] at h; cases h)
      | some old =>
        have hover : value.IsPlain ∨ old.IsPlain →
            Keyed.get? entries k = some (overlay value old) := by
          intro hplain
          rw [overlay_of_not_tables hplain]
          refine htaken (hplain.imp_right fun hplain old' hold' => ?_)
          rw [hold] at hold'
          exact Option.some.inj hold' ▸ hplain
        rcases value.isPlain_or_table with hplain | ⟨inner, rfl⟩
        · exact hover (.inl hplain)
        rcases old.isPlain_or_table with hplain | ⟨below, rfl⟩
        · exact hover (.inr hplain)
        -- Both are tables, so the result has a table there, and the law holds of the three.
        have hbelow : (table lower).along? [k] = some (table below) := by
          rw [along?_singleton]
          exact hold
        have habove : (table upper).along? [k] = some (table inner) := by
          rw [along?_singleton]
          exact hvalue
        obtain ⟨found, hfound, -⟩ := h.keys [k] below inner hbelow habove
        rw [along?_singleton] at hfound
        have hinner : table found = overlay (table inner) (table below) :=
          ih (k, table inner) (Keyed.mem_of_get? hvalue) (hlower.of_get? hold) rfl
            (h.under hold hvalue hfound)
        exact hfound.trans (congrArg some hinner)

/-! ## Laying over again -/

/-- Entries laid over nothing are these entries. -/
theorem overlayEntries_nil {upper : List (Key × Document)} (h : (Keyed.keys upper).Nodup) :
    overlayEntries upper [] = upper := by
  have hkeys : Keyed.keys (overlayEntries upper []) = Keyed.keys upper := by
    rw [keys_overlay h]
    simp [Keyed.keys]
  refine Keyed.eq_of_get?_eq hkeys (hkeys ▸ h) fun k => ?_
  rw [get?_overlay h]
  cases Keyed.get? upper k <;> rfl

/-- A document that is laid over another a second time changes nothing. -/
theorem overlay_overlay {layer base : Document} (hlayer : layer.HasDistinctKeys)
    (hbase : base.HasDistinctKeys) :
    overlay layer (overlay layer base) = overlay layer base := by
  induction hlayer generalizing base with
  | plain h => rw [overlay_of_not_tables (.inl h), overlay_of_not_tables (.inl h)]
  | @table upper nodup values ih =>
    -- A value over itself is a value over itself over nothing.
    have hself : ∀ k value, Keyed.get? upper k = some value → overlay value value = value := by
      intro k value hvalue
      have hnull : (null : Document).IsPlain := nofun
      have hagain := ih (k, value) (Keyed.mem_of_get? hvalue) (.plain hnull)
      rwa [overlay_of_plain value hnull] at hagain
    have hentries : ∀ lower : List (Key × Document), (table lower).HasDistinctKeys →
        overlayEntries upper (overlayEntries upper lower) = overlayEntries upper lower := by
      intro lower hlower
      have hkeys : Keyed.keys (overlayEntries upper (overlayEntries upper lower)) =
          Keyed.keys (overlayEntries upper lower) := by
        -- The second time no key is new.
        rw [keys_overlay nodup (overlayEntries upper lower), List.append_right_eq_self,
          List.filter_eq_nil_iff]
        intro k hk
        simpa using mem_keys_overlay.mpr (.inr hk)
      have hdistinct : (Keyed.keys (overlayEntries upper lower)).Nodup :=
        nodup_keys_overlay nodup hlower.nodup
      refine Keyed.eq_of_get?_eq hkeys (hkeys ▸ hdistinct) fun k => ?_
      rw [get?_overlay nodup, get?_overlay nodup]
      cases hvalue : Keyed.get? upper k with
      | none => rfl
      | some value =>
        cases hold : Keyed.get? lower k with
        | none => exact congrArg some (hself k value hvalue)
        | some old =>
          exact congrArg some (ih (k, value) (Keyed.mem_of_get? hvalue) (hlower.of_get? hold))
    cases base with
    | table lower => exact congrArg table (hentries lower hbase)
    | _ =>
      have hnothing := hentries [] (.table List.nodup_nil nofun)
      rw [overlayEntries_nil nodup] at hnothing
      exact congrArg table hnothing

/-- A table that is laid over a table gives what the law says and nothing else. Laying it over again
changes nothing, and neither does an empty table above or below another. -/
theorem laidOver_pathLaw {upper lower : List (Key × Document)}
    (hupper : (table upper).HasDistinctKeys) (hlower : (table lower).HasDistinctKeys) :
    ∃ merged, (table upper).laidOver (table lower) = .ok merged ∧
      (∀ result, PathLaw (table lower) (table upper) result ↔ result = merged) ∧
      (table upper).laidOver merged = .ok merged ∧
      (table []).laidOver (table lower) = .ok (table lower) ∧
      (table upper).laidOver (table []) = .ok (table upper) := by
  refine ⟨overlay (table upper) (table lower), rfl, fun result => ?law, ?again, rfl, ?nothing⟩
  case law =>
    constructor
    · intro h
      exact h.eq_overlay hupper hlower
    · rintro rfl
      exact pathLaw_overlay hupper
  case again =>
    have hagain := overlay_overlay hupper hlower
    exact congrArg Except.ok hagain
  case nothing =>
    have hentries := overlayEntries_nil hupper.nodup
    exact congrArg (fun entries => Except.ok (table entries)) hentries

/-- A table of named values has distinct keys if the names are distinct and the values have. -/
theorem hasDistinctKeys_ofFields {fields : List (String × Document)}
    (hnodup : (Keyed.keys (ofFields fields).entries).Nodup)
    (hvalues : ∀ f ∈ fields, f.2.HasDistinctKeys) : (ofFields fields).HasDistinctKeys := by
  refine .table hnodup fun e he => ?_
  obtain ⟨f, hf, rfl⟩ := List.mem_map.mp he
  exact hvalues f hf

/-- A layer with a table over a text, a flag over a table, a table over a table and a new key. -/
theorem laidOver_mixed :
    let base := ofFields [("web", ofFields [("path", ofString "/"), ("port", integer 80)]),
      ("level", ofString "INFO"), ("collector", ofFields [("stem", ofString "gpu")])]
    let layer := ofFields [("extra", null), ("level", ofFields [("name", ofString "DEBUG")]),
      ("collector", flag true), ("web", ofFields [("host", ofString "a"), ("port", integer 81)])]
    let merged := ofFields [
      ("web", ofFields [("path", ofString "/"), ("port", integer 81), ("host", ofString "a")]),
      ("level", ofFields [("name", ofString "DEBUG")]), ("collector", flag true), ("extra", null)]
    base.HasDistinctKeys ∧ layer.HasDistinctKeys ∧ layer.laidOver base = .ok merged ∧
      PathLaw base layer merged ∧ layer.laidOver merged = .ok merged := by
  intro base layer merged
  have hplain {d : Document} (h : d.IsPlain) : d.HasDistinctKeys := .plain h
  have hbase : base.HasDistinctKeys := by
    refine hasDistinctKeys_ofFields (by decide) ?_
    simp only [List.forall_mem_cons]
    refine ⟨hasDistinctKeys_ofFields (by decide) ?_, hplain nofun,
      hasDistinctKeys_ofFields (by decide) ?_, nofun⟩
    · simp only [List.forall_mem_cons]
      exact ⟨hplain nofun, hplain nofun, nofun⟩
    · simp only [List.forall_mem_cons]
      exact ⟨hplain nofun, nofun⟩
  have hlayer : layer.HasDistinctKeys := by
    refine hasDistinctKeys_ofFields (by decide) ?_
    simp only [List.forall_mem_cons]
    refine ⟨hplain nofun, hasDistinctKeys_ofFields (by decide) ?_, hplain nofun,
      hasDistinctKeys_ofFields (by decide) ?_, nofun⟩
    · simp only [List.forall_mem_cons]
      exact ⟨hplain nofun, nofun⟩
    · simp only [List.forall_mem_cons]
      exact ⟨hplain nofun, hplain nofun, nofun⟩
  obtain ⟨result, hresult, hlaw, hagain, -⟩ := laidOver_pathLaw hlayer hbase
  have hmerged : layer.laidOver base = .ok merged := rfl
  obtain rfl : merged = result := Except.ok.inj (hmerged.symm.trans hresult)
  exact ⟨hbase, hlayer, hmerged, (hlaw merged).mpr rfl, hagain⟩

end GpuMetrics.Document
