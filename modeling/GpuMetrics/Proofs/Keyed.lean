import GpuMetrics.Keyed

/-!
# Looking up values under keys

In a list in which no key stands twice, putting the pairs one after the other gives the list itself,
and every pair is found under its key. If the value under each key is a function of the key,
changing one value changes the function at that key only.
-/

namespace GpuMetrics.Keyed

variable {κ α β : Type}

/-! ## Keys -/

/-- The keys of a list that begins with a pair. -/
@[simp] theorem keys_cons (e : κ × α) (d : Keyed κ α) : keys (e :: d) = e.1 :: keys d := rfl

/-- The keys of two lists side by side are those of the first list that have a partner. -/
theorem keys_zip {ks : List κ} {as : List α} (h : ks.length ≤ as.length) :
    keys (ks.zip as) = ks := by
  rw [keys, List.map_fst_zip h]

/-! ## Values -/

variable [DecidableEq κ]

/-- There is no value under a key exactly if it is none of the keys. -/
theorem get?_eq_none_iff {d : Keyed κ α} {k : κ} : get? d k = none ↔ k ∉ keys d := by
  induction d with
  | nil => simp [get?, keys]
  | cons e r ih =>
    by_cases he : e.1 = k
    · simp [get?, he]
    · have hk : k ≠ e.1 := fun h => he h.symm
      simp [get?, he, hk, ih]

/-- There is a value under each of the keys. -/
theorem isSome_get?_iff {d : Keyed κ α} {k : κ} : (get? d k).isSome ↔ k ∈ keys d := by
  rw [Option.isSome_iff_ne_none, ne_eq, get?_eq_none_iff, Classical.not_not]

/-- If no key stands twice, every pair of the list is found under its key. -/
theorem get?_of_mem {d : Keyed κ α} (hd : (keys d).Nodup) {e : κ × α} (h : e ∈ d) :
    get? d e.1 = some e.2 := by
  induction d with
  | nil => simp at h
  | cons f r ih =>
    rw [keys_cons, List.nodup_cons] at hd
    rcases List.mem_cons.mp h with rfl | hr
    · simp [get?]
    · have hf : f.1 ≠ e.1 := fun hk => hd.1 (hk ▸ List.mem_map_of_mem hr)
      simpa [get?, hf] using ih hd.2 hr

/-- A value that depends on the key alone is found under each of the keys. -/
theorem get?_of_keys (ks : List κ) (g : κ → α) (k : κ) :
    get? (ks.map fun k => (k, g k)) k = if k ∈ ks then some (g k) else none := by
  induction ks with
  | nil => rfl
  | cons j r ih =>
    by_cases hj : j = k
    · simp [get?, hj]
    · have hk : k ≠ j := fun h => hj h.symm
      simp [get?, hj, hk, ih]

/-- Things that are kept under a key of their own are found as in the list of them. -/
theorem get?_map_key (l : List α) (key : α → κ) (k : κ) :
    get? (l.map fun a => (key a, a)) k = l.find? fun a => key a = k := by
  induction l with
  | nil => rfl
  | cons a r ih => by_cases ha : key a = k <;> simp [get?, ha, ih]

/-- In two lists one after the other, a key is looked up in the first and then in the second. -/
theorem get?_append (d e : Keyed κ α) (k : κ) : get? (d ++ e) k = (get? d k).or (get? e k) := by
  induction d with
  | nil => rfl
  | cons f r ih => by_cases hf : f.1 = k <;> simp [get?, hf, ih]

/-- A value that is found stands in the list under its key. -/
theorem mem_of_get? {d : Keyed κ α} {k : κ} {a : α} (h : get? d k = some a) : (k, a) ∈ d := by
  induction d with
  | nil => cases h
  | cons e r ih =>
    rw [get?] at h
    split at h
    · next he =>
      cases h
      rw [← he]
      exact List.mem_cons_self
    · exact List.mem_cons_of_mem e (ih h)

/-- Two lists with the same keys in the same order, none of which stands twice, are the same if the
same value is found under each key. -/
theorem eq_of_get?_eq {d e : Keyed κ α} (hkeys : keys d = keys e) (hd : (keys d).Nodup)
    (h : ∀ k, get? d k = get? e k) : d = e := by
  induction d generalizing e with
  | nil => exact (List.map_eq_nil_iff.mp hkeys.symm).symm
  | cons p d ih =>
    cases e with
    | nil => cases hkeys
    | cons q e =>
      rw [keys_cons, keys_cons, List.cons.injEq] at hkeys
      rw [keys_cons, List.nodup_cons] at hd
      have hvalue : p.2 = q.2 := by
        have hfirst := h p.1
        rw [get?, if_pos rfl, get?, if_pos hkeys.1.symm] at hfirst
        exact Option.some.inj hfirst
      -- The first key does not come again, so what is found in the rest is found in the whole.
      have hrest : ∀ k, get? d k = get? e k := by
        intro k
        by_cases hk : p.1 = k
        · have hnone : k ∉ keys d := hk ▸ hd.1
          rw [get?_eq_none_iff.mpr hnone, get?_eq_none_iff.mpr (hkeys.2 ▸ hnone)]
        · have hwhole := h k
          rwa [get?, if_neg hk, get?, if_neg (hkeys.1 ▸ hk)] at hwhole
      rw [ih hkeys.2 hd.2 hrest, Prod.ext hkeys.1 hvalue]

/-! ## Changing one value -/

/-- Changing the value under a key changes no other value. -/
theorem change_of_keys {ks : List κ} (h : ks.Nodup) (g : κ → α) (k : κ) (f : α → α) :
    change (ks.map fun j => (j, g j)) k f =
      ks.map fun j => (j, if j = k then f (g j) else g j) := by
  induction ks with
  | nil => rfl
  | cons j r ih =>
    rw [List.nodup_cons] at h
    by_cases hj : j = k
    · -- The key does not come again, so the rest stays as it is.
      have hr : ∀ i ∈ r, i ≠ k := fun i hi hk => h.1 (hj ▸ hk ▸ hi)
      have hrest : (r.map fun i => (i, if i = k then f (g i) else g i)) = r.map fun i => (i, g i) :=
        List.map_congr_left fun i hi => by rw [if_neg (hr i hi)]
      simp [change, hj, hrest]
    · simp [change, hj, ih h.2]

/-! ## Lists put together -/

/-- A key stands in a list in which a value was put if it stood there or the value is its own. -/
theorem mem_keys_put {d : Keyed κ α} {k j : κ} {a : α} :
    j ∈ keys (put d k a) ↔ j ∈ keys d ∨ j = k := by
  rw [keys_put]
  split
  · next hk =>
    constructor
    · exact .inl
    · rintro (hj | rfl)
      · exact hj
      · exact hk
  · rw [List.mem_append, List.mem_singleton]

/-- Putting a value makes no key stand twice. -/
theorem nodup_keys_put {d : Keyed κ α} (hd : (keys d).Nodup) (k : κ) (a : α) :
    (keys (put d k a)).Nodup := by
  rw [keys_put]
  split
  · exact hd
  · next hk =>
    rw [List.nodup_append]
    refine ⟨hd, List.pairwise_singleton _ k, fun j hj i hi => ?_⟩
    rw [List.mem_singleton] at hi
    rw [hi]
    exact fun heq => hk (heq ▸ hj)

/-- A new key goes to the end. -/
theorem put_of_not_mem {d : Keyed κ α} {k : κ} (h : k ∉ keys d) (a : α) :
    put d k a = d ++ [(k, a)] := by
  induction d with
  | nil => rfl
  | cons e r ih =>
    -- The key is not the first one, so it goes on to the rest.
    rw [keys_cons, List.mem_cons, not_or] at h
    have he : e.1 ≠ k := fun hk => h.1 hk.symm
    simp [put, he, ih h.2]

/-- Pairs with new keys, put one after the other, go to the end in their order. -/
theorem foldl_put_of_nodup (l : List (κ × α)) (d : Keyed κ α)
    (h : (keys d ++ l.map (·.1)).Nodup) :
    l.foldl (fun d e => put d e.1 e.2) d = d ++ l := by
  induction l generalizing d with
  | nil => simp
  | cons e r ih =>
    have he : e.1 ∉ keys d := fun hm =>
      (List.nodup_append.mp h).2.2 e.1 hm e.1 (by simp) rfl
    rw [List.foldl_cons, put_of_not_mem he, ih, List.append_assoc, List.singleton_append]
    simpa [keys] using h

/-- A list in which no key stands twice is put together as it is. -/
theorem ofList_of_nodup {l : List (κ × α)} (h : (l.map (·.1)).Nodup) : ofList l = l := by
  have := foldl_put_of_nodup l [] (by simpa [keys] using h)
  simpa [ofList] using this

/-! ## Values that are all changed -/

/-- Each value changed by the same function, under its key. -/
def mapValues (f : α → β) (d : Keyed κ α) : Keyed κ β := d.map fun e => (e.1, f e.2)

/-- A changed value is put where the value was put. -/
theorem mapValues_put (f : α → β) (d : Keyed κ α) (k : κ) (a : α) :
    mapValues f (put d k a) = put (mapValues f d) k (f a) := by
  induction d with
  | nil => rfl
  | cons e r ih =>
    rw [mapValues] at ih
    by_cases he : e.1 = k
    · simp [mapValues, put, he]
    · simp [mapValues, put, he, ih]

/-- Pairs with changed values are put together as the pairs are. -/
theorem ofList_mapValues (f : α → β) (l : List (κ × α)) :
    ofList (mapValues f l) = mapValues f (ofList l) := by
  have hfold (d : Keyed κ α) : (mapValues f l).foldl (fun d e => put d e.1 e.2) (mapValues f d) =
      mapValues f (l.foldl (fun d e => put d e.1 e.2) d) := by
    induction l generalizing d with
    | nil => rfl
    | cons e r ih =>
      have hrest := ih (put d e.1 e.2)
      rw [mapValues_put] at hrest
      exact hrest
  exact hfold []

/-- A changed value is found under its key. -/
theorem get?_mapValues (f : α → β) (d : Keyed κ α) (k : κ) :
    get? (mapValues f d) k = (get? d k).map f := by
  induction d with
  | nil => rfl
  | cons e r ih =>
    rw [mapValues] at ih
    by_cases he : e.1 = k
    · simp [mapValues, get?, he]
    · simp [mapValues, get?, he, ih]

end GpuMetrics.Keyed
