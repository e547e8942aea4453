import GpuMetrics.Config.Layer
import GpuMetrics.Proofs.Keyed

/-!
# Tables laid over each other

A table that is laid over another adds its keys to those of the lower one (`mem_keys_overlay`). What
is found under a key depends on what the two tables have under that key and on nothing else
(`get?_overlay`): a value of the lower table alone stays, and a value of the upper one is laid over
what was there, where a table goes over a table and every other value takes the place of the old
one (`overlay_of_plain`).
-/

namespace GpuMetrics.Document

/-- Whether a value is no table. -/
def IsPlain (d : Document) : Prop := ∀ entries, d ≠ .table entries

/-- A value that is laid over no table takes its place. -/
theorem overlay_of_plain (d : Document) {old : Document} (h : old.IsPlain) :
    overlay d old = d := by
  cases d with
  | table entries =>
    cases old with
    | table below => exact absurd rfl (h below)
    | _ => rfl
  | _ => rfl

/-- The keys of two tables laid over each other are those of both. -/
theorem mem_keys_overlay {upper : List (Key × Document)} {lower : Keyed Key Document} {k : Key} :
    k ∈ Keyed.keys (overlayEntries upper lower) ↔ k ∈ Keyed.keys lower ∨ k ∈ Keyed.keys upper := by
  induction upper generalizing lower with
  | nil => simp [overlayEntries, Keyed.keys]
  | cons e rest ih =>
    rw [overlayEntries, ih, Keyed.mem_keys_put, Keyed.keys_cons, List.mem_cons, or_assoc]

/-- The keys of two tables laid over each other are those of the lower one in their order, and then
those that only the upper one has. -/
theorem keys_overlay {upper : List (Key × Document)} (hupper : (Keyed.keys upper).Nodup)
    (lower : Keyed Key Document) :
    Keyed.keys (overlayEntries upper lower) =
      Keyed.keys lower ++ (Keyed.keys upper).filter (· ∉ Keyed.keys lower) := by
  induction upper generalizing lower with
  | nil => simp [overlayEntries, Keyed.keys]
  | cons e rest ih =>
    rw [Keyed.keys_cons, List.nodup_cons] at hupper
    rw [overlayEntries, ih hupper.2, Keyed.keys_put, Keyed.keys_cons, List.filter_cons]
    by_cases hmem : e.1 ∈ Keyed.keys lower
    · simp [hmem]
    · -- The key is new and does not come again, so it makes no difference to the keys of the rest.
      have hrest : (Keyed.keys rest).filter (· ∉ Keyed.keys lower ++ [e.1]) =
          (Keyed.keys rest).filter (· ∉ Keyed.keys lower) := by
        refine List.filter_congr fun k hk => ?_
        have hne : k ≠ e.1 := fun heq => hupper.1 (heq ▸ hk)
        simp [hne]
      simp only [hmem, if_false, hrest, not_false_eq_true, decide_true, if_true,
        List.append_assoc, List.singleton_append]

/-- If no key stands twice in either of two tables, none does when they are laid over each other. -/
theorem nodup_keys_overlay {upper : List (Key × Document)} (hupper : (Keyed.keys upper).Nodup)
    {lower : Keyed Key Document} (hlower : (Keyed.keys lower).Nodup) :
    (Keyed.keys (overlayEntries upper lower)).Nodup := by
  rw [keys_overlay hupper, List.nodup_append]
  refine ⟨hlower, hupper.filter _, fun j hj k hk => ?_⟩
  have hnew : k ∉ Keyed.keys lower := by simpa using (List.mem_filter.mp hk).2
  exact fun heq => hnew (heq ▸ hj)

/-- What is found in a table that was laid over another, if no key stands twice in the upper one. -/
theorem get?_overlay {upper : List (Key × Document)} (hupper : (Keyed.keys upper).Nodup)
    (lower : Keyed Key Document) (k : Key) :
    Keyed.get? (overlayEntries upper lower) k =
      match Keyed.get? upper k, Keyed.get? lower k with
      | none, old => old
      | some d, none => some d
      | some d, some old => some (overlay d old) := by
  induction upper generalizing lower with
  | nil => rfl
  | cons e rest ih =>
    rw [Keyed.keys_cons, List.nodup_cons] at hupper
    rw [overlayEntries, ih hupper.2, Keyed.get?_put]
    by_cases hk : e.1 = k
    · -- The key does not come again, so what the first entry has put stays.
      have hrest : Keyed.get? rest k = none := by
        rw [Keyed.get?_eq_none_iff, ← hk]
        exact hupper.1
      rw [hrest, Keyed.get?, if_pos hk, if_pos hk, hk]
      cases Keyed.get? lower k <;> rfl
    · rw [if_neg hk, Keyed.get?, if_neg hk]

/-- Under a key where the lower table has no table, the value of the upper one counts first. -/
theorem get?_overlay_of_plain {upper : List (Key × Document)}
    (hupper : (Keyed.keys upper).Nodup) {lower : Keyed Key Document} {k : Key}
    (hplain : ∀ old, Keyed.get? lower k = some old → old.IsPlain) :
    Keyed.get? (overlayEntries upper lower) k =
      (Keyed.get? upper k).or (Keyed.get? lower k) := by
  rw [get?_overlay hupper]
  cases hd : Keyed.get? upper k with
  | none => cases Keyed.get? lower k <;> rfl
  | some d =>
    cases hold : Keyed.get? lower k with
    | none => rfl
    | some old =>
      simp only
      rw [overlay_of_plain d (hplain old hold)]
      rfl

/-- What is found under a name in a document that was laid over another, where both are tables. -/
theorem get?_overlay_table {upper lower : List (Key × Document)}
    (hupper : (Keyed.keys upper).Nodup) (name : String) :
    ((table upper).overlay (table lower)).get? name =
      match (table upper).get? name, (table lower).get? name with
      | none, old => old
      | some d, none => some d
      | some d, some old => some (overlay d old) :=
  get?_overlay hupper lower (.name name)

end GpuMetrics.Document
