import GpuMetrics.Proofs.Trimming
import GpuMetrics.Reading
import Mathlib.Data.List.Forall2
import Mathlib.Data.Nat.Digits.Lemmas

/-!
# Bit masks

A bit mask is `0x` and a row of hexadecimal digits. A digit is one of sixteen characters in either
case (`Shows`), and the reader knows just these (`hexValue?_eq_some_iff`), so a row of digits is
read as the number that it writes in base 16 (`valueIn_eq`). Whatever else stands behind `0x` makes
the text no mask (`all_isHex_iff`), and only the size of the number decides whether it is read, not
how many digits write it (`hexNat_decision`).

A cell that begins like a mask is read as one or is a fault, and every writing of a number below
`2 ^ 64` is read as that number (`ofCell_mask`).
-/

namespace GpuMetrics.Reading

/-! ## Digits -/

/-- A hexadecimal digit of either case, and the number below sixteen that it stands for. -/
def Shows (c : Char) (n : Nat) : Prop :=
  n < 16 ∧ (c = Nat.digitChar n ∨ c = (Nat.digitChar n).toUpper)

instance (c : Char) (n : Nat) : Decidable (Shows c n) := by
  unfold Shows
  infer_instance

/-- The digits up to nine stand in a row, and so do the other six in each case. -/
theorem digitChar_rows : (∀ n < 10, Nat.digitChar n = Char.ofNat (n + 48)) ∧
    (∀ n < 16, 10 ≤ n → (Nat.digitChar n).toUpper = Char.ofNat (n + 55)) ∧
    ∀ n < 16, 10 ≤ n → Nat.digitChar n = Char.ofNat (n + 87) := by
  decide

/-- A character has the value of a digit exactly if it is that digit. -/
theorem hexValue?_eq_some_iff {c : Char} {n : Nat} : Text.hexValue? c = some n ↔ Shows c n := by
  constructor
  · intro h
    have hchar : Char.ofNat c.toNat = c := Char.ofNat_toNat c
    obtain ⟨hdigits, hcapitals, hsmall⟩ := digitChar_rows
    unfold Text.hexValue? at h
    simp only [Bool.and_eq_true, decide_eq_true_eq] at h
    -- One case for each of the three rows of characters.
    split at h
    · next hrow =>
      have hn : c.toNat = n + 48 := by have := Option.some.inj h; omega
      rw [hn] at hchar
      exact ⟨by omega, .inl (by rw [hdigits n (by omega), hchar])⟩
    split at h
    · next hrow =>
      have hn : c.toNat = n + 55 := by have := Option.some.inj h; omega
      rw [hn] at hchar
      exact ⟨by omega, .inr (by rw [hcapitals n (by omega) (by omega), hchar])⟩
    split at h
    · next hrow =>
      have hn : c.toNat = n + 87 := by have := Option.some.inj h; omega
      rw [hn] at hchar
      exact ⟨by omega, .inl (by rw [hsmall n (by omega) (by omega), hchar])⟩
    · cases h
  · have hboth : ∀ n < 16, Text.hexValue? (Nat.digitChar n) = some n ∧
        Text.hexValue? (Nat.digitChar n).toUpper = some n := by decide
    rintro ⟨hn, rfl | rfl⟩
    · exact (hboth n hn).1
    · exact (hboth n hn).2

/-- A text has hexadecimal digits only exactly if it is a row of digits. -/
theorem all_isHex_iff {s : List Char} :
    s.all Text.isHex = true ↔ ∃ ds, List.Forall₂ Shows s ds := by
  induction s with
  | nil => exact iff_of_true rfl ⟨[], .nil⟩
  | cons c s ih =>
    rw [List.all_cons, Bool.and_eq_true, ih, Text.isHex, Option.isSome_iff_exists]
    constructor
    · rintro ⟨⟨d, hd⟩, ds, hds⟩
      exact ⟨d :: ds, .cons (hexValue?_eq_some_iff.mp hd) hds⟩
    · rintro ⟨_, _ | ⟨hd, hds⟩⟩
      exact ⟨⟨_, hexValue?_eq_some_iff.mpr hd⟩, _, hds⟩

/-- A row of digits is read as the number that it writes in base 16, the last digit counting one. -/
theorem valueIn_eq {s : List Char} {ds : List Nat} (h : List.Forall₂ Shows s ds) :
    Text.valueIn 16 s = Nat.ofDigits 16 ds.reverse := by
  -- What was read before is shifted by one place for each digit.
  have hfold : ∀ n, s.foldl (fun n c => 16 * n + (Text.hexValue? c).getD 0) n =
      ds.foldl (fun n d => d + 16 * n) n := by
    induction h with
    | nil => exact fun _ => rfl
    | cons hd _ ih =>
      intro n
      rw [List.foldl_cons, List.foldl_cons, hexValue?_eq_some_iff.mpr hd, ih, Option.getD_some,
        Nat.add_comm]
  calc Text.valueIn 16 s = ds.foldl (fun n d => d + 16 * n) 0 := hfold 0
    _ = ds.reverse.foldr (fun d n => d + 16 * n) 0 := by rw [List.foldr_reverse]
    _ = Nat.ofDigits 16 ds.reverse := by
      rw [Nat.ofDigits_eq_foldr]
      rfl

/-! ## Masks -/

/-- A text that is `0x` and a row of digits, with the number that these write in base 16. -/
def IsMask (t : String) (v : Nat) : Prop :=
  ∃ s ds, t.toList = '0' :: 'x' :: s ∧ s ≠ [] ∧ List.Forall₂ Shows s ds ∧
    v = Nat.ofDigits 16 ds.reverse

/-- A text that begins with `0x`, written out. -/
theorem exists_of_startsWith {t : String} (h : Text.startsWith "0x" t = true) :
    ∃ s, t.toList = '0' :: 'x' :: s := by
  obtain ⟨s, hs⟩ := List.isPrefixOf_iff_prefix.mp h
  exact ⟨s, hs.symm⟩

/-- What a text that begins with `0x` is read as: the number of a mask if it has a place in 64 bits,
a fault of its size if it has none, and another fault if the text is no mask. -/
theorem hexNat_decision {t : String} (h : Text.startsWith "0x" t = true) :
    (∀ v, IsMask t v → hexNat t = if v < 2 ^ 64 then .ok v else .error (.hexTooLarge t)) ∧
      ((¬ ∃ v, IsMask t v) → hexNat t = .error (.notHex t)) := by
  obtain ⟨s, hs⟩ := exists_of_startsWith h
  have hdigits : hexDigits t.toList = s := by rw [hs, hexDigits]
  have hlimit : wordLimit = 2 ^ 64 := by decide
  constructor
  · rintro v ⟨s', ds, hs', hne, hds, rfl⟩
    obtain rfl : s = s' := by simpa using hs.symm.trans hs'
    have hnonempty : s.isEmpty = false := by simpa using hne
    have hall : s.all Text.isHex = true := all_isHex_iff.mpr ⟨ds, hds⟩
    simp only [hexNat, hdigits, hnonempty, hall, Bool.not_true, Bool.or_self, Bool.false_eq_true,
      if_false, valueIn_eq hds, hlimit]
  · intro hnone
    have hrefused : (s.isEmpty || !s.all Text.isHex) = true := by
      by_contra hread
      simp only [Bool.or_eq_true, not_or, Bool.not_eq_true, Bool.not_eq_false',
        List.isEmpty_eq_false_iff] at hread
      obtain ⟨ds, hds⟩ := all_isHex_iff.mp hread.2
      exact hnone ⟨_, s, ds, hs, hread.1, hds, rfl⟩
    simp only [hexNat, hdigits, hrefused, if_true]

/-! ## Numbers -/

/-- A number below `2 ^ 64` is far from the ends of the range of binary numbers. -/
theorem ofInt_natCast {n : Nat} (h : n < 2 ^ 64) : Decimal.ofInt n = Float.ofNat n := by
  have hsign : decide ((n : Int) < 0) = false := by simp
  have hcount : Decimal.digitCount n ≤ 20 := by
    unfold Decimal.digitCount
    split
    · exact Nat.zero_le _
    · exact Nat.toDigits_length 10 n 20 (by decide) (by omega)
  unfold Decimal.ofInt Decimal.signed Decimal.Number.toFloat
  simp only [hsign, Bool.false_eq_true, if_false, Int.natAbs_natCast, Int.zero_add]
  split
  · next hzero =>
    subst hzero
    rfl
  · rw [if_neg (by omega), if_neg (by omega)]
    rfl

/-- A row of digits of either case that writes a number with so many zeros in front. -/
def Renders (zeros v : Nat) (s : List Char) : Prop :=
  s ≠ [] ∧ List.Forall₂ Shows s (List.replicate zeros 0 ++ (Nat.digits 16 v).reverse)

/-- Zeros in front change nothing about the number that a row of digits writes. -/
theorem isMask_of_renders {zeros v : Nat} {s : List Char} (h : Renders zeros v s) :
    IsMask (String.ofList ('0' :: 'x' :: s)) v := by
  refine ⟨s, _, String.toList_ofList, h.1, h.2, ?_⟩
  rw [List.reverse_append, List.reverse_reverse, List.reverse_replicate, Nat.ofDigits_append,
    Nat.ofDigits_replicate_zero, Nat.ofDigits_digits, Nat.mul_zero, Nat.add_zero]

/-- No digit is blank. -/
theorem Shows.isBlank_eq {c : Char} {n : Nat} (h : Shows c n) : Text.isBlank c = false := by
  have hboth : ∀ n < 16, Text.isBlank (Nat.digitChar n) = false ∧
      Text.isBlank (Nat.digitChar n).toUpper = false := by decide
  obtain ⟨hn, rfl | rfl⟩ := h
  · exact (hboth n hn).1
  · exact (hboth n hn).2

/-- Trimming leaves of a row of digits behind `0x` with blanks around it what is between these. -/
theorem trimmed_mask {a b s : List Char} {ds : List Nat} (ha : Text.allBlank a = true)
    (hb : Text.allBlank b = true) (hs : List.Forall₂ Shows s ds) :
    Text.trimmed (String.ofList (a ++ '0' :: 'x' :: s ++ b)) =
      String.ofList ('0' :: 'x' :: s) := by
  have hblank : ∀ c ∈ '0' :: 'x' :: s, Text.isBlank c = false := by
    refine List.forall_mem_cons.mpr ⟨by decide, List.forall_mem_cons.mpr ⟨by decide, ?_⟩⟩
    intro c hc
    have hhex : Text.isHex c = true := List.all_eq_true.mp (all_isHex_iff.mpr ⟨ds, hs⟩) c hc
    obtain ⟨d, hd⟩ := Option.isSome_iff_exists.mp hhex
    exact (hexValue?_eq_some_iff.mp hd).isBlank_eq
  rw [Text.trimmed, String.toList_ofList, Text.trim_surrounded ha hb, Text.trim_of_notBlank hblank]

/-! ## Cells -/

section Cells

variable {raw t : String} (ht : t = Text.trimmed raw) (hmark : Text.startsWith "0x" t = true)

include ht hmark

/-- A cell that begins like a mask is read as one, and in no other way. -/
theorem ofCell_eq_hexNat (multiplier : Float) :
    ofCell raw multiplier = (hexNat t).map fun n => Decimal.ofInt n := by
  subst ht
  rw [ofCell, hmark]
  rfl

/-- A cell that is a mask is the number of the mask, unless that has no place in 64 bits. -/
theorem ofCell_of_isMask {v : Nat} (hv : IsMask t v) (multiplier : Float) :
    ofCell raw multiplier =
      if v < 2 ^ 64 then .ok (Float.ofNat v) else .error (.hexTooLarge t) := by
  rw [ofCell_eq_hexNat ht hmark, (hexNat_decision hmark).1 v hv]
  split
  · next hlt =>
    rw [← ofInt_natCast hlt]
    rfl
  · rfl

/-- A cell that begins like a mask and is none is a fault. -/
theorem ofCell_of_not_isMask (hnone : ¬ ∃ v, IsMask t v) (multiplier : Float) :
    ofCell raw multiplier = .error (.notHex t) := by
  rw [ofCell_eq_hexNat ht hmark, (hexNat_decision hmark).2 hnone]
  rfl

end Cells

/-- A cell that begins like a mask is a number exactly if it is the mask of one below `2 ^ 64`, and
it is that number whatever the multiplier. Any other such cell is a fault of its size or of its
form, and is not looked at in another way. And every writing of a number below `2 ^ 64` as a mask is
that number: digits of either case, any zeros in front, and any blanks around it. -/
theorem ofCell_mask (multiplier : Float) :
    (∀ raw t, t = Text.trimmed raw → Text.startsWith "0x" t = true →
      (∀ x, ofCell raw multiplier = .ok x ↔ ∃ v < 2 ^ 64, IsMask t v ∧ x = Float.ofNat v) ∧
      ((∃ v, IsMask t v ∧ 2 ^ 64 ≤ v) → ofCell raw multiplier = .error (.hexTooLarge t)) ∧
      ((¬ ∃ v, IsMask t v) → ofCell raw multiplier = .error (.notHex t))) ∧
    ∀ v < 2 ^ 64, ∀ zeros s, Renders zeros v s →
      ∀ a b, Text.allBlank a = true → Text.allBlank b = true →
        ofCell (String.ofList (a ++ '0' :: 'x' :: s ++ b)) multiplier = .ok (Float.ofNat v) := by
  constructor
  · intro raw t ht hmark
    refine ⟨fun x => ⟨fun hx => ?_, ?_⟩, ?_, fun hnone =>
      ofCell_of_not_isMask ht hmark hnone multiplier⟩
    · -- A cell with a value is no fault, so it is a mask, and not of a number that is too large.
      by_cases hmask : ∃ v, IsMask t v
      · obtain ⟨v, hv⟩ := hmask
        rw [ofCell_of_isMask ht hmark hv] at hx
        split at hx
        · next hlt => exact ⟨v, hlt, hv, (Except.ok.inj hx).symm⟩
        · cases hx
      · rw [ofCell_of_not_isMask ht hmark hmask] at hx
        cases hx
    · rintro ⟨v, hlt, hv, rfl⟩
      rw [ofCell_of_isMask ht hmark hv, if_pos hlt]
    · rintro ⟨v, hv, hge⟩
      rw [ofCell_of_isMask ht hmark hv, if_neg (Nat.not_lt.mpr hge)]
  · intro v hlt zeros s hs a b ha hb
    have ht := trimmed_mask ha hb hs.2
    have hmark : Text.startsWith "0x" (String.ofList ('0' :: 'x' :: s)) = true := by
      have hlist : (String.ofList ('0' :: 'x' :: s)).toList = '0' :: 'x' :: s :=
        String.toList_ofList
      rw [Text.startsWith, hlist, List.isPrefixOf_iff_prefix]
      exact ⟨s, rfl⟩
    rw [ofCell_of_isMask ht.symm hmark (isMask_of_renders hs), if_pos hlt]

/-- The greatest number that has a place in 64 bits is read with zeros in front and in letters of
both cases, and the next one is too large. -/
theorem ofCell_greatestMask :
    ofCell "\t0x00FFFFFFFFFFFFFFff " 1000 = .ok (Float.ofNat (2 ^ 64 - 1)) ∧
      ofCell "0x10000000000000000" 1000 = .error (.hexTooLarge "0x10000000000000000") := by
  obtain ⟨hbegins, hreads⟩ := ofCell_mask 1000
  constructor
  · have hdigits : Nat.digits 16 (2 ^ 64 - 1) = List.replicate 16 15 := by
      norm_num [List.replicate]
    have hrenders : Renders 2 (2 ^ 64 - 1) "00FFFFFFFFFFFFFFff".toList := by
      refine ⟨by decide, ?_⟩
      rw [hdigits]
      decide
    exact hreads _ (by decide) 2 _ hrenders ['\t'] [' '] (by decide) (by decide)
  · have hmask : IsMask "0x10000000000000000" (2 ^ 64) := by
      refine ⟨"10000000000000000".toList, 1 :: List.replicate 16 0, rfl, by decide, by decide, ?_⟩
      decide
    have ht : "0x10000000000000000" = Text.trimmed "0x10000000000000000" := by decide
    exact (hbegins _ _ ht (by decide)).2.1 ⟨2 ^ 64, hmask, Nat.le_refl _⟩

end GpuMetrics.Reading
