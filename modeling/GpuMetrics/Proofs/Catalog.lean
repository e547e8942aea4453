import GpuMetrics.Field.Catalog
import GpuMetrics.Field.Request
import GpuMetrics.Proofs.Keyed

/-!
# Looking up headers in the catalog

The catalog has each of its fields once, the required ones among them. Looking up some fields gives
the headers of all of them, or the first field that the catalog does not have, and one of the two is
always the case (`catalog_cases`).
-/

namespace GpuMetrics.Field

/-- No field stands twice in the catalog. -/
theorem nodup_keys_catalog : (Keyed.keys catalog).Nodup := by
  -- The kernel is slow at taking texts apart, and `simp` compares literals without that.
  simp [Keyed.keys, catalog, same]

/-- The required fields are in the catalog. -/
theorem required_mem_catalog : ∀ f ∈ required, f.queryField ∈ Keyed.keys catalog := by
  simp [required, uuid, Keyed.keys, catalog, same]

/-- The header of a field in the catalog, which has one for each of its fields. -/
def catalogHeader (field : String) : String := (Keyed.get? catalog field).getD ""

/-- Fields of the catalog have their headers from it. -/
theorem catalogHeaders_of_forall {fields : List String}
    (h : ∀ q ∈ fields, q ∈ Keyed.keys catalog) :
    catalogHeaders fields = .ok (fields.map catalogHeader) := by
  induction fields with
  | nil => rfl
  | cons q r ih =>
    obtain ⟨header, hheader⟩ := Option.isSome_iff_exists.mp
      (Keyed.isSome_get?_iff.mpr (h q (by simp)))
    rw [catalogHeaders, hheader, ih fun p hp => h p (by simp [hp])]
    simp [Except.map, catalogHeader, hheader]

/-- The first field that the catalog does not have is the fault. -/
theorem catalogHeaders_of_first {before rest : List String} {q : String}
    (hbefore : ∀ p ∈ before, p ∈ Keyed.keys catalog) (hq : q ∉ Keyed.keys catalog) :
    catalogHeaders (before ++ q :: rest) = .error ⟨q⟩ := by
  induction before with
  | nil => rw [List.nil_append, catalogHeaders, Keyed.get?_eq_none_iff.mpr hq]
  | cons p r ih =>
    obtain ⟨header, hheader⟩ := Option.isSome_iff_exists.mp
      (Keyed.isSome_get?_iff.mpr (hbefore p (by simp)))
    rw [List.cons_append, catalogHeaders, hheader, ih fun p hp => hbefore p (by simp [hp])]
    rfl

/-- Either the catalog has all of some fields, or there is a first one that it does not have. -/
theorem catalog_cases (fields : List String) :
    (∀ q ∈ fields, q ∈ Keyed.keys catalog) ∨
      ∃ before q rest, fields = before ++ q :: rest ∧ (∀ p ∈ before, p ∈ Keyed.keys catalog) ∧
        q ∉ Keyed.keys catalog := by
  induction fields with
  | nil => exact .inl (by simp)
  | cons q r ih =>
    by_cases hq : q ∈ Keyed.keys catalog
    -- A known field goes in front of whatever is the case for the rest.
    · rcases ih with hall | ⟨before, p, rest, rfl, hbefore, hp⟩
      · exact .inl (List.forall_mem_cons.mpr ⟨hq, hall⟩)
      · exact .inr ⟨q :: before, p, rest, rfl, List.forall_mem_cons.mpr ⟨hq, hbefore⟩, hp⟩
    · exact .inr ⟨[], q, r, rfl, by simp, hq⟩

/-- The catalog gives as many headers as it is asked for. -/
theorem length_of_catalogHeaders {fields headers : List String}
    (h : catalogHeaders fields = .ok headers) : headers.length = fields.length := by
  rcases catalog_cases fields with hall | ⟨before, q, rest, rfl, hbefore, hq⟩
  · rw [catalogHeaders_of_forall hall] at h
    cases h
    exact List.length_map _
  · rw [catalogHeaders_of_first hbefore hq] at h
    cases h

end GpuMetrics.Field
