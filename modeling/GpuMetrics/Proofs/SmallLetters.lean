import GpuMetrics.Proofs.SnakeCase
import GpuMetrics.Text.Case

/-!
# Small forms of small forms

A small form has no small form but itself (`lower_lower`). For the characters of ASCII, and for the
few whose small form is longer than one character, this is looked up. The other capital letters are
given by spans, which are moved as a whole to where their small letters are. What has to be known of
the table of spans is that no moved span meets one of capital letters (`all_landsClear`): it lies
before or behind it, or the letters of the two alternate.
-/

namespace GpuMetrics.Text

variable {c d : Char} {n first last : Nat} {alternate : Bool}

/-! ## Spans of capital letters -/

/-- The spans of all capital letters. The small forms of those in front are not given by a shift,
but are those of ASCII or longer than one character. -/
def capitals : List (Nat × Nat × Nat × Int) := (65, 90, 1, 32) :: (0x130, 0x130, 1, 0) :: lowerSpans

/-- Whether a code is in a span. -/
def InSpan (n : Nat) (span : Nat × Nat × Nat × Int) : Prop :=
  span.1 ≤ n ∧ n ≤ span.2.1 ∧ (n - span.1) % span.2.2.1 = 0

/-- Whether no code from `first` to `last` is that of a capital letter. With `alternate`, only every
second code counts, beginning with the first. -/
def isClear (first last : Nat) (alternate : Bool) : Bool :=
  capitals.all fun span => last.blt span.1 || span.2.1.blt first ||
    (alternate && span.2.2.1 == 2 && first % 2 != span.1 % 2)

/-- Whether the small letters of a span of capital letters are no capital letters. -/
def landsClear : Nat × Nat × Nat × Int → Bool
  | (first, last, step, shift) =>
    0 ≤ first + shift &&
      isClear (first + shift).toNat (last + shift).toNat (step == 2 || first == last)

/-- The small letters of all spans are no capital letters. -/
theorem all_landsClear : lowerSpans.all landsClear = true := by decide +kernel

/-- Where it is clear there is no capital letter. -/
theorem not_inSpan_of_isClear (h : isClear first last alternate = true) (hfirst : first ≤ n)
    (hlast : n ≤ last) (hn : alternate = true → n % 2 = first % 2) :
    ∀ span ∈ capitals, ¬ InSpan n span := by
  rintro ⟨first', last', step', shift'⟩ hspan ⟨hfirst', hlast', hstep'⟩
  have hclear := List.all_eq_true.mp h _ hspan
  simp only [Bool.or_eq_true, Bool.and_eq_true, Nat.blt_eq, beq_iff_eq, bne_iff_ne] at hclear
  dsimp only at hfirst' hlast' hstep'
  rcases hclear with (hbefore | hbehind) | ⟨⟨halternate, rfl⟩, hparity⟩
  · omega
  · omega
  · have hsame := hn halternate
    omega

/-- A small letter is in no span of capital letters. -/
theorem not_inSpan_shifted {span : Nat × Nat × Nat × Int} (hspan : span ∈ lowerSpans)
    (hn : InSpan n span) : ∀ other ∈ capitals, ¬ InSpan (n + span.2.2.2).toNat other := by
  obtain ⟨first, last, step, shift⟩ := span
  obtain ⟨hfirst, hlast, hstep⟩ := hn
  have hlands : landsClear (first, last, step, shift) = true :=
    List.all_eq_true.mp all_landsClear _ hspan
  rw [landsClear, Bool.and_eq_true, decide_eq_true_eq] at hlands
  obtain ⟨hpositive, hclear⟩ := hlands
  dsimp only at hfirst hlast hstep ⊢
  refine not_inSpan_of_isClear hclear (by omega) (by omega) fun halternate => ?_
  -- Letters that alternate are an even number of places away from the first one.
  have heven : (n - first) % 2 = 0 := by
    simp only [Bool.or_eq_true, beq_iff_eq] at halternate
    rcases halternate with rfl | rfl
    · exact hstep
    · omega
  omega

/-! ## Small forms of characters -/

/-- A character that is no capital letter is its own small form. -/
theorem lowerChar_of_not_inSpan (h : ∀ span ∈ capitals, ¬ InSpan c.toNat span) :
    lowerChar c = [c] := by
  have hspans : spanShift? lowerSpans c.toNat = none := by
    have hfind : (lowerSpans.find? fun (first, last, step, _) =>
        first ≤ c.toNat && c.toNat ≤ last && (c.toNat - first) % step == 0) = none := by
      refine List.find?_eq_none.mpr fun span hspan hin => ?_
      simp only [Bool.and_eq_true, decide_eq_true_eq, beq_iff_eq] at hin
      exact h span (by simp [capitals, hspan]) ⟨hin.1.1, hin.1.2, hin.2⟩
    rw [spanShift?, hfind, Option.map_none]
  have hlonger : (lowerLonger.find? fun e => e.1 == c.toNat) = none := by
    refine List.find?_eq_none.mpr fun e he hc => ?_
    obtain rfl := List.mem_singleton.mp he
    have hc : 0x130 = c.toNat := beq_iff_eq.mp hc
    exact h (0x130, 0x130, 1, 0) (by simp [capitals]) ⟨Nat.le_of_eq hc, Nat.le_of_eq hc.symm,
      Nat.mod_one _⟩
  unfold lowerChar
  split
  · next hascii =>
    have hcapital : ¬ (65 ≤ c.toNat ∧ c.toNat ≤ 90) := fun hc =>
      h (65, 90, 1, 32) (by simp [capitals]) ⟨hc.1, hc.2, Nat.mod_one _⟩
    have hsmall : (decide (65 ≤ c.toNat ∧ c.toNat ≤ 90) || c.toLower == c) = true :=
      of_forall_ascii (p := fun c => decide (65 ≤ c.toNat ∧ c.toNat ≤ 90) || c.toLower == c)
        (by decide) hascii
    rw [Bool.or_eq_true, decide_eq_true_eq] at hsmall
    rw [beq_iff_eq.mp (hsmall.resolve_left hcapital)]
  · rw [mapped, hlonger, hspans]

/-- What a character becomes when it is made small is its own small form. -/
theorem lowerChar_of_mem (h : d ∈ lowerChar c) : lowerChar d = [d] := by
  by_cases hascii : c.toNat < 128
  · rw [lowerChar, if_pos hascii, List.mem_singleton] at h
    subst h
    have hagain := of_forall_ascii (p := fun c => lowerChar c.toLower == [c.toLower])
      (by decide) hascii
    exact beq_iff_eq.mp hagain
  · have hmapped : lowerChar c = mapped lowerSpans lowerLonger c := by
      rw [lowerChar, if_neg hascii]
    rw [hmapped] at h
    unfold mapped at h
    split at h
    · next e he =>
      obtain rfl := List.mem_singleton.mp (List.mem_of_find?_eq_some he)
      have hparts : ∀ d ∈ [0x69, 0x307].map Char.ofNat, lowerChar d = [d] :=
        forall_of_all (by decide +kernel)
      exact hparts d h
    · next hlonger =>
      split at h
      · next shift hshift =>
        obtain rfl := List.mem_singleton.mp h
        obtain ⟨span, hfind, rfl⟩ := Option.map_eq_some_iff.mp hshift
        have hin := List.find?_some hfind
        simp only [Bool.and_eq_true, decide_eq_true_eq, beq_iff_eq] at hin
        have hclear := not_inSpan_shifted (List.mem_of_find?_eq_some hfind)
          ⟨hin.1.1, hin.1.2, hin.2⟩
        -- A code that is that of no character stands for the first character of all.
        by_cases hvalid : Nat.isValidChar (c.toNat + span.2.2.2).toNat
        · rw [Char.ofNat, dif_pos hvalid]
          exact lowerChar_of_not_inSpan hclear
        · rw [Char.ofNat, dif_neg hvalid]
          decide
      · next hspans =>
        obtain rfl := List.mem_singleton.mp h
        rw [hmapped, mapped, hlonger, hspans]

/-! ## Small forms of texts -/

/-- Each character of a small form is its own small form. -/
theorem lowerChar_of_mem_lowerFrom {afterCased : Bool} {s : List Char}
    (h : d ∈ lowerFrom afterCased s) : lowerChar d = [d] := by
  have hsigma : ∀ d ∈ ['\u03C2', '\u03C3'], lowerChar d = [d] :=
    forall_of_all (by decide +kernel)
  induction s generalizing afterCased with
  | nil => cases h
  | cons c r ih =>
    rw [lowerFrom, List.mem_append] at h
    rcases h with h | h
    · split at h
      · refine hsigma d ?_
        obtain rfl := List.mem_singleton.mp h
        split <;> simp
      · exact lowerChar_of_mem h
    · exact ih h

/-- A text of such characters is its own small form. -/
theorem lowerFrom_of_forall {s : List Char} (afterCased : Bool)
    (h : ∀ c ∈ s, lowerChar c = [c]) : lowerFrom afterCased s = s := by
  induction s generalizing afterCased with
  | nil => rfl
  | cons c r ih =>
    obtain ⟨hc, hr⟩ := List.forall_mem_cons.mp h
    have hsigma : c ≠ capitalSigma := by
      rintro rfl
      exact absurd hc (by decide +kernel)
    rw [lowerFrom]
    simp only [if_neg hsigma, hc, ih _ hr, List.singleton_append]

/-- A small form is its own small form. -/
theorem lower_lower (s : List Char) : lower (lower s) = lower s :=
  lowerFrom_of_forall false fun _ hc => lowerChar_of_mem_lowerFrom hc

end GpuMetrics.Text
