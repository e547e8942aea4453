import GpuMetrics.Metric.Naming
import Mathlib.Data.List.Basic

/-!
# Parted words

Words that are run together are parted in two passes from left to right. The first looks at a
character and the two behind it, the second at a character and the one behind it, and both put an
underscore in front of a capital letter and nothing else (`mem_partWords`, `mem_partCapitals`).

A character that is no letter is a place where a text can be cut: what is before it is parted as if
it stood alone, and so are the character and what is behind it (`parted_append`). So an ending
without capital letters that begins with such a character stays as it is (`parted_of_no_capital`).
-/

namespace GpuMetrics

/-- What holds of each of the 128 characters of ASCII holds of every character that is one. -/
theorem Text.of_forall_ascii {p : Char → Bool}
    (h : (List.range 128).all (fun n => p (Char.ofNat n)) = true) {c : Char} (hc : c.toNat < 128) :
    p c = true := by
  have hn := List.all_eq_true.mp h c.toNat (List.mem_range.mpr hc)
  rwa [Char.ofNat_toNat] at hn

/-- What is checked of the characters of a text one by one holds of all of them. -/
theorem Text.forall_of_all {p : Char → Prop} [DecidablePred p] {s : List Char}
    (h : s.all (fun c => decide (p c)) = true) : ∀ c ∈ s, p c :=
  fun c hc => of_decide_eq_true (List.all_eq_true.mp h c hc)

namespace Metric

variable {c d l u : Char} {r s : List Char} {inWord : Bool}

/-! ## Capitalised words -/

/-- A letter of a capitalised word parts nothing. -/
theorem partWords_letter (h : (inWord && isSmall c) = true) :
    partWords inWord (c :: r) = c :: partWords true r := by
  match r with
  | u :: l :: r' => rw [partWords, if_pos h]
  | [x] => rw [partWords.eq_3 _ _ _ (by simp), if_pos h]
  | [] => rw [partWords.eq_3 _ _ _ (by simp), if_pos h]

/-- A character in front of a capitalised word is parted from it. -/
theorem partWords_hump (hc : ¬ (inWord && isSmall c) = true)
    (h : (c ≠ '\n' && isCapital u && isSmall l) = true) :
    partWords inWord (c :: u :: l :: r) = c :: '_' :: u :: l :: partWords true r := by
  rw [partWords, if_neg hc, if_pos h]

/-- Any other character stays as it is. -/
theorem partWords_other (hc : ¬ (inWord && isSmall c) = true)
    (h : ∀ u l r', r = u :: l :: r' → ¬ (c ≠ '\n' && isCapital u && isSmall l) = true) :
    partWords inWord (c :: r) = c :: partWords false r := by
  match r with
  | u :: l :: r' => rw [partWords, if_neg hc, if_neg (h u l r' rfl)]
  | [x] => cases inWord <;> cases hc' : isSmall c <;> simp [partWords, hc']
  | [] => cases inWord <;> cases hc' : isSmall c <;> simp [partWords, hc']

/-- What is no small letter is in no word, whatever is before it. -/
theorem partWords_of_not_small (h : isSmall d = false) :
    partWords inWord (d :: r) = partWords false (d :: r) := by
  match r with
  | u :: l :: r => simp [partWords, h]
  | [x] => simp [partWords, h]
  | [] => simp [partWords, h]

/-- A text is parted character by character, but for a capitalised word, which is taken at once with
the character in front of it. -/
theorem partWords_induction {motive : Bool → List Char → Prop} (nil : ∀ b, motive b [])
    (letter : ∀ b c r, (b && isSmall c) = true → motive true r → motive b (c :: r))
    (hump : ∀ b c u l r, ¬ (b && isSmall c) = true →
      (c ≠ '\n' && isCapital u && isSmall l) = true → motive true r → motive b (c :: u :: l :: r))
    (other : ∀ b c r, ¬ (b && isSmall c) = true →
      (∀ u l r', r = u :: l :: r' → ¬ (c ≠ '\n' && isCapital u && isSmall l) = true) →
      motive false r → motive b (c :: r)) (b : Bool) (s : List Char) : motive b s := by
  induction b, s using partWords.induct with
  | case1 b => exact nil b
  | case2 b c r hword ih => exact letter b c r hword ih
  | case3 b c hword u l r hcap ih => exact hump b c u l r hword hcap ih
  | case4 b c hword u l r hcap ih =>
    refine other b c _ hword ?_ ih
    rintro _ _ _ ⟨⟩
    exact hcap
  | case5 b c hword r hshort =>
    have hr : motive false r := by
      match r with
      | [] => exact nil false
      | [x] => exact other false x [] (by simp) nofun (nil false)
      | u :: l :: r => exact (hshort u l r rfl).elim
    exact other b c r hword (fun u l r' hr' => (hshort u l r' hr').elim) hr

/-- Parting words adds nothing but underscores. -/
theorem mem_partWords (h : c ∈ partWords inWord s) : c ∈ s ∨ c = '_' := by
  induction inWord, s using partWords_induction with
  | nil => exact .inl h
  | letter inWord e r hword ih =>
    rw [partWords_letter hword] at h
    rcases List.mem_cons.mp h with rfl | h
    · exact .inl List.mem_cons_self
    · exact (ih h).imp_left (List.mem_cons_of_mem _)
  | hump inWord e u l r hword hcap ih =>
    rw [partWords_hump hword hcap] at h
    simp only [List.mem_cons] at h ⊢
    rcases h with rfl | rfl | rfl | rfl | h
    · exact .inl (.inl rfl)
    · exact .inr rfl
    · exact .inl (.inr (.inl rfl))
    · exact .inl (.inr (.inr (.inl rfl)))
    · exact (ih h).imp_left fun h => .inr (.inr (.inr h))
  | other inWord e r hword hcap ih =>
    rw [partWords_other hword hcap] at h
    rcases List.mem_cons.mp h with rfl | h
    · exact .inl List.mem_cons_self
    · exact (ih h).imp_left (List.mem_cons_of_mem _)

/-- The first character of a text stays the first one, and what is behind it is of the rest. -/
theorem exists_partWords_cons (inWord : Bool) (c : Char) (r : List Char) :
    ∃ t, partWords inWord (c :: r) = c :: t ∧ ∀ d ∈ t, d ∈ r ∨ d = '_' := by
  by_cases hword : (inWord && isSmall c) = true
  · exact ⟨_, partWords_letter hword, fun d hd => mem_partWords hd⟩
  · by_cases hhump : ∃ u l r', r = u :: l :: r' ∧ (c ≠ '\n' && isCapital u && isSmall l) = true
    · obtain ⟨u, l, r', rfl, hhump⟩ := hhump
      refine ⟨_, partWords_hump hword hhump, fun d hd => ?_⟩
      simp only [List.mem_cons] at hd ⊢
      rcases hd with rfl | rfl | rfl | hd
      · exact .inr rfl
      · exact .inl (.inl rfl)
      · exact .inl (.inr (.inl rfl))
      · exact (mem_partWords hd).imp_left fun hd => .inr (.inr hd)
    · have hother : ∀ u l r', r = u :: l :: r' →
          ¬ (c ≠ '\n' && isCapital u && isSmall l) = true := fun u l r' hr h =>
        hhump ⟨u, l, r', hr, h⟩
      exact ⟨_, partWords_other hword hother, fun d hd => mem_partWords hd⟩

/-- A text without capital letters stays as it is. -/
theorem partWords_of_no_capital (h : ∀ c ∈ s, isCapital c = false) : partWords inWord s = s := by
  induction inWord, s using partWords_induction with
  | nil => rfl
  | letter inWord e r hword ih =>
    rw [partWords_letter hword, ih fun c hc => h c (List.mem_cons_of_mem e hc)]
  | hump inWord e u l r hword hcap ih =>
    have hu : isCapital u = false := h u (by simp)
    simp [hu] at hcap
  | other inWord e r hword hcap ih =>
    rw [partWords_other hword hcap, ih fun c hc => h c (List.mem_cons_of_mem e hc)]

/-- A text is cut at a character that is no letter: it ends a word and begins none. -/
theorem partWords_append (hcap : isCapital d = false) (hsmall : isSmall d = false)
    (s r : List Char) :
    partWords inWord (s ++ d :: r) = partWords inWord s ++ partWords false (d :: r) := by
  induction inWord, s using partWords_induction with
  | nil inWord => exact partWords_of_not_small hsmall
  | letter inWord e r hword ih =>
    rw [List.cons_append, partWords_letter hword, partWords_letter hword, ih, List.cons_append]
  | hump inWord e u l r hword hhump ih =>
    rw [List.cons_append, List.cons_append, List.cons_append, partWords_hump hword hhump,
      partWords_hump hword hhump, ih]
    rfl
  | other inWord e s hword hother ih =>
    -- A word that runs into `d` would have it as its capital, or as the small letter behind that.
    have hother' : ∀ u l r', s ++ d :: r = u :: l :: r' →
        ¬ (e ≠ '\n' && isCapital u && isSmall l) = true := by
      intro u l r' hr
      cases s with
      | nil =>
        cases hr
        simp [hcap]
      | cons x s =>
        cases s with
        | nil =>
          cases hr
          simp [hsmall]
        | cons y s =>
          cases hr
          exact hother _ _ _ rfl
    rw [List.cons_append, partWords_other hword hother', partWords_other hword hother, ih,
      List.cons_append]

/-! ## Capital letters -/

/-- A small letter or a digit is parted from a capital letter behind it. -/
theorem partCapitals_hump (h : ((isSmall c || Text.isAsciiDigit c) && isCapital u) = true) :
    partCapitals (c :: u :: r) = c :: '_' :: partCapitals (u :: r) := by
  rw [partCapitals, if_pos h]

/-- Any other character stays as it is. -/
theorem partCapitals_other
    (h : ∀ u r', r = u :: r' → ¬ ((isSmall c || Text.isAsciiDigit c) && isCapital u) = true) :
    partCapitals (c :: r) = c :: partCapitals r := by
  cases r with
  | nil => rfl
  | cons u r => rw [partCapitals, if_neg (h u r rfl)]

/-- A text is parted character by character. -/
theorem partCapitals_induction {motive : List Char → Prop} (nil : motive [])
    (hump : ∀ c u r, ((isSmall c || Text.isAsciiDigit c) && isCapital u) = true →
      motive (u :: r) → motive (c :: u :: r))
    (other : ∀ c r,
      (∀ u r', r = u :: r' → ¬ ((isSmall c || Text.isAsciiDigit c) && isCapital u) = true) →
      motive r → motive (c :: r)) (s : List Char) : motive s := by
  induction s with
  | nil => exact nil
  | cons c r ih =>
    cases r with
    | nil => exact other c [] nofun ih
    | cons u r =>
      by_cases h : ((isSmall c || Text.isAsciiDigit c) && isCapital u) = true
      · exact hump c u r h ih
      · refine other c (u :: r) ?_ ih
        rintro _ _ ⟨⟩
        exact h

/-- Parting capital letters adds nothing but underscores. -/
theorem mem_partCapitals (h : c ∈ partCapitals s) : c ∈ s ∨ c = '_' := by
  induction s using partCapitals_induction with
  | nil => exact .inl h
  | hump e u r hhump ih =>
    rw [partCapitals_hump hhump, List.mem_cons, List.mem_cons] at h
    rcases h with rfl | rfl | h
    · exact .inl List.mem_cons_self
    · exact .inr rfl
    · exact (ih h).imp_left (List.mem_cons_of_mem e)
  | other e r hother ih =>
    rw [partCapitals_other hother, List.mem_cons] at h
    rcases h with rfl | h
    · exact .inl List.mem_cons_self
    · exact (ih h).imp_left (List.mem_cons_of_mem e)

/-- The first character of a text stays the first one, and what is behind it is of the rest. -/
theorem exists_partCapitals_cons (c : Char) (r : List Char) :
    ∃ t, partCapitals (c :: r) = c :: t ∧ ∀ d ∈ t, d ∈ r ∨ d = '_' := by
  by_cases hhump : ∃ u r', r = u :: r' ∧
      ((isSmall c || Text.isAsciiDigit c) && isCapital u) = true
  · obtain ⟨u, r', rfl, hhump⟩ := hhump
    refine ⟨_, partCapitals_hump hhump, fun d hd => ?_⟩
    rcases List.mem_cons.mp hd with rfl | hd
    · exact .inr rfl
    · exact mem_partCapitals hd
  · have hother : ∀ u r', r = u :: r' →
        ¬ ((isSmall c || Text.isAsciiDigit c) && isCapital u) = true := fun u r' hr h =>
      hhump ⟨u, r', hr, h⟩
    exact ⟨_, partCapitals_other hother, fun d hd => mem_partCapitals hd⟩

/-- A text without capital letters stays as it is. -/
theorem partCapitals_of_no_capital (h : ∀ c ∈ s, isCapital c = false) : partCapitals s = s := by
  induction s using partCapitals_induction with
  | nil => rfl
  | hump e u r hhump ih =>
    have hu : isCapital u = false := h u (by simp)
    simp [hu] at hhump
  | other e r hother ih =>
    rw [partCapitals_other hother, ih fun c hc => h c (List.mem_cons_of_mem e hc)]

/-- A text is cut in front of a character that is no capital letter. -/
theorem partCapitals_append (hcap : isCapital d = false) (s r : List Char) :
    partCapitals (s ++ d :: r) = partCapitals s ++ partCapitals (d :: r) := by
  induction s using partCapitals_induction with
  | nil => rfl
  | hump e u s hhump ih =>
    rw [List.cons_append, List.cons_append, partCapitals_hump hhump, partCapitals_hump hhump,
      ← List.cons_append (a := u), ih]
    rfl
  | other e s hother ih =>
    have hother' : ∀ u r', s ++ d :: r = u :: r' →
        ¬ ((isSmall e || Text.isAsciiDigit e) && isCapital u) = true := by
      intro u r' hr
      cases s with
      | nil =>
        cases hr
        simp [hcap]
      | cons x s =>
        cases hr
        exact hother _ _ rfl
    rw [List.cons_append, partCapitals_other hother', partCapitals_other hother, ih,
      List.cons_append]

/-! ## Both passes -/

/-- Both passes, before the letters are made small. -/
def parted (s : List Char) : List Char := partCapitals (partWords false s)

/-- Parting adds nothing but underscores. -/
theorem mem_parted (h : c ∈ parted s) : c ∈ s ∨ c = '_' := by
  rcases mem_partCapitals h with h | h
  · exact mem_partWords h
  · exact .inr h

/-- The first character of a text stays the first one, and what is behind it is of the rest. -/
theorem exists_parted_cons (c : Char) (r : List Char) :
    ∃ t, parted (c :: r) = c :: t ∧ ∀ d ∈ t, d ∈ r ∨ d = '_' := by
  obtain ⟨t, ht, hmem⟩ := exists_partWords_cons false c r
  obtain ⟨t', ht', hmem'⟩ := exists_partCapitals_cons c t
  refine ⟨t', by rw [parted, ht, ht'], fun d hd => ?_⟩
  rcases hmem' d hd with hd | hd
  · exact hmem d hd
  · exact .inr hd

/-- A text is cut at a character that is no letter. -/
theorem parted_append (hcap : isCapital d = false) (hsmall : isSmall d = false)
    (s r : List Char) : parted (s ++ d :: r) = parted s ++ parted (d :: r) := by
  obtain ⟨t, ht, -⟩ := exists_partWords_cons false d r
  calc parted (s ++ d :: r) = partCapitals (partWords false s ++ partWords false (d :: r)) := by
        rw [parted, partWords_append hcap hsmall]
    _ = parted s ++ parted (d :: r) := by
        rw [parted, parted, ht, partCapitals_append hcap]

/-- A character that is neither a letter nor a digit is not parted from one that is no capital
letter. -/
theorem parted_cons_cons (hsmall : isSmall c = false) (hdigit : Text.isAsciiDigit c = false)
    (hcap : isCapital d = false) (r : List Char) : parted (c :: d :: r) = c :: parted (d :: r) := by
  have hword : partWords false (c :: d :: r) = c :: partWords false (d :: r) := by
    refine partWords_other (by simp) ?_
    rintro _ _ _ ⟨⟩
    simp [hcap]
  obtain ⟨t, ht, -⟩ := exists_partWords_cons false d r
  rw [parted, hword, partCapitals_other (by simp [hsmall, hdigit]), parted]

/-- A text without capital letters stays as it is. -/
theorem parted_of_no_capital (h : ∀ c ∈ s, isCapital c = false) : parted s = s := by
  rw [parted, partWords_of_no_capital h, partCapitals_of_no_capital h]

/-- ASCII characters are made small one by one, after both passes. -/
theorem snakeCase_eq (h : ∀ c ∈ s, c.toNat < 128) : snakeCase s = (parted s).map Char.toLower := by
  refine Text.lowerFrom_ascii false _ fun c hc => ?_
  rcases mem_parted hc with hc | rfl
  · exact h c hc
  · decide

end Metric

end GpuMetrics
