import GpuMetrics.Reading

/-!
# Numerals and rows of digits

The numerals of a text are read off from left to right, each as long as it can be. Here they are
told from the rows of digits in the text. A stretch without digits has no numeral in it, but its
last character may be the sign or the point of the numeral behind it (`numerals_append`). So the
first numeral of a text has its first row of digits, with the point in front if there is one, and if
there is none, with a second row that only a point parts from the first; and the other numerals are
those of the rest (`exists_first`).

Hence a text has just one numeral exactly if its digits are those of a single number
(`SoleNumber`).
-/

namespace GpuMetrics.Reading

open Text (isDecimal)

variable {a d e r s w : List Char}

/-! ## Rows of digits -/

/-- A text without digits. -/
def DigitFree (s : List Char) : Prop := ∀ c ∈ s, isDecimal c = false

instance (s : List Char) : Decidable (DigitFree s) :=
  List.decidableBAll (fun c => isDecimal c = false) s

/-- A row of digits, at least one. -/
def IsRun (s : List Char) : Prop := s ≠ [] ∧ ∀ c ∈ s, isDecimal c = true

instance (s : List Char) : Decidable (IsRun s) :=
  @instDecidableAnd _ _ _ (List.decidableBAll (fun c => isDecimal c = true) s)

/-- Whether a row of digits ends in front of a text, since the text begins with no digit. -/
def EndsRun (r : List Char) : Prop := ∀ c ∈ r.head?, isDecimal c = false

/-- Whether a numeral ends in front of a text, since the text begins with no digit, and with no
point that has a digit behind it. -/
structure EndsNumeral (r : List Char) : Prop where
  /-- The text begins with no digit. -/
  run : EndsRun r
  /-- If it begins with a point, there is no digit behind it. -/
  point : ∀ r', r = '.' :: r' → EndsRun r'

/-- What begins with no digit ends a row of digits. -/
theorem endsRun_cons {c : Char} (hc : isDecimal c = false) : EndsRun (c :: r) := by
  rintro _ ⟨⟩
  exact hc

/-- What begins with neither a digit nor a point ends a numeral. -/
theorem endsNumeral_cons {c : Char} (hc : isDecimal c = false) (hpoint : c ≠ '.') :
    EndsNumeral (c :: r) where
  run := endsRun_cons hc
  point := fun _ h => absurd (List.cons.inj h).1 hpoint

/-- A text without digits ends a row of digits. -/
theorem DigitFree.endsRun (h : DigitFree r) : EndsRun r :=
  fun c hc => h c (List.mem_of_mem_head? hc)

/-- A text without digits ends a numeral. -/
theorem DigitFree.endsNumeral (h : DigitFree r) : EndsNumeral r where
  run := h.endsRun
  point := by
    rintro r' rfl
    exact DigitFree.endsRun fun c hc => h c (List.mem_cons_of_mem _ hc)

/-- The digits at the front of a text end where the rest begins. -/
theorem takeWhile_append (hw : ∀ c ∈ w, isDecimal c = true) (hr : EndsRun r) :
    (w ++ r).takeWhile isDecimal = w := by
  have hnil : r.takeWhile isDecimal = [] := by
    cases r with
    | nil => rfl
    | cons c r => rw [List.takeWhile_cons_of_neg (by simp [hr c rfl])]
  rw [List.takeWhile_append_of_pos hw, hnil, List.append_nil]

/-- Behind the digits at the front of a text is the rest. -/
theorem dropWhile_append (hw : ∀ c ∈ w, isDecimal c = true) (hr : EndsRun r) :
    (w ++ r).dropWhile isDecimal = r := by
  have hself : r.dropWhile isDecimal = r := by
    cases r with
    | nil => rfl
    | cons c r => rw [List.dropWhile_cons_of_neg (by simp [hr c rfl])]
  rw [List.dropWhile_append_of_pos hw, hself]

/-- A text is the digits at its front and what ends them. -/
theorem exists_digits (s : List Char) :
    ∃ w r, s = w ++ r ∧ (∀ c ∈ w, isDecimal c = true) ∧ EndsRun r := by
  induction s with
  | nil => exact ⟨[], [], rfl, nofun, nofun⟩
  | cons c s ih =>
    obtain ⟨w, r, rfl, hw, hr⟩ := ih
    cases hc : isDecimal c with
    | true => exact ⟨c :: w, r, rfl, List.forall_mem_cons.mpr ⟨hc, hw⟩, hr⟩
    | false => exact ⟨[], c :: (w ++ r), rfl, nofun, endsRun_cons hc⟩

/-- A text with digits is a stretch without any, a row of them, and what ends it. -/
theorem exists_run (h : ¬ DigitFree s) :
    ∃ a d r, s = a ++ (d ++ r) ∧ DigitFree a ∧ IsRun d ∧ EndsRun r := by
  induction s with
  | nil => exact absurd nofun h
  | cons c s ih =>
    cases hc : isDecimal c with
    | true =>
      obtain ⟨w, r, rfl, hw, hr⟩ := exists_digits s
      exact ⟨[], c :: w, r, rfl, nofun,
        ⟨List.cons_ne_nil c w, List.forall_mem_cons.mpr ⟨hc, hw⟩⟩, hr⟩
    | false =>
      have hs : ¬ DigitFree s := fun hs => h (List.forall_mem_cons.mpr ⟨hc, hs⟩)
      obtain ⟨a, d, r, rfl, ha, hd, hr⟩ := ih hs
      exact ⟨c :: a, d, r, rfl, List.forall_mem_cons.mpr ⟨hc, ha⟩, hd, hr⟩

/-- What ends a row of digits ends a numeral as well, or begins with a point and more digits. -/
theorem EndsRun.cases (hr : EndsRun r) :
    EndsNumeral r ∨ ∃ e rest, r = '.' :: (e ++ rest) ∧ IsRun e ∧ EndsRun rest := by
  cases r with
  | nil => exact .inl ⟨hr, nofun⟩
  | cons c r =>
    by_cases hc : c = '.'
    · obtain ⟨e, rest, rfl, he, hrest⟩ := exists_digits r
      by_cases hnil : e = []
      · subst hnil
        refine .inl ⟨hr, fun r' hr' => ?_⟩
        obtain rfl : rest = r' := (List.cons.inj hr').2
        exact hrest
      · exact .inr ⟨e, rest, by rw [hc], ⟨hnil, he⟩, hrest⟩
    · exact .inl (endsNumeral_cons (hr c rfl) hc)

/-! ## Numerals at the front -/

/-- A row of digits is a numeral without a point. -/
theorem unsignedNumeral?_run (hd : IsRun d) (hr : EndsNumeral r) :
    unsignedNumeral? (d ++ r) = some ((d, []), r) := by
  unfold unsignedNumeral?
  simp only [takeWhile_append hd.2 hr.run, dropWhile_append hd.2 hr.run]
  split
  · next r' =>
    have hnil : r'.takeWhile isDecimal = [] := takeWhile_append (w := []) nofun (hr.point r' rfl)
    simp [hnil, hd.1]
  · simp [hd.1]

/-- A point with a row of digits behind it and perhaps digits before it is a numeral. -/
theorem unsignedNumeral?_point (hw : ∀ c ∈ w, isDecimal c = true) (he : IsRun e)
    (hr : EndsRun r) : unsignedNumeral? (w ++ '.' :: (e ++ r)) = some ((w, e), r) := by
  have hpoint : EndsRun ('.' :: (e ++ r)) := endsRun_cons (by decide)
  unfold unsignedNumeral?
  simp [takeWhile_append hw hpoint, dropWhile_append hw hpoint, takeWhile_append he.2 hr,
    dropWhile_append he.2 hr, he.1]

/-- There is no numeral at the front of a text that ends one. -/
theorem unsignedNumeral?_none (hr : EndsNumeral r) : unsignedNumeral? r = none := by
  have hdigits : r.takeWhile isDecimal = [] := takeWhile_append (w := []) nofun hr.run
  have hrest : r.dropWhile isDecimal = r := dropWhile_append (w := []) nofun hr.run
  unfold unsignedNumeral?
  simp only [hdigits, hrest]
  split
  · next r' =>
    have hnil : r'.takeWhile isDecimal = [] := takeWhile_append (w := []) nofun (hr.point r' rfl)
    simp [hnil]
  · rfl

/-- Nor is there one with a sign, if no numeral begins behind the sign. -/
theorem numeral?_none {c : Char} (hc : EndsNumeral (c :: r))
    (hr : c = '-' ∨ c = '+' → EndsNumeral r) : numeral? (c :: r) = none := by
  unfold numeral?
  split
  · next h =>
    cases h
    rw [unsignedNumeral?_none (hr (.inl rfl))]
    rfl
  · next h =>
    cases h
    rw [unsignedNumeral?_none (hr (.inr rfl))]
    rfl
  · rw [unsignedNumeral?_none hc]
    rfl

/-! ## Numerals behind a stretch without digits -/

/-- A text without digits has no numerals. -/
theorem numerals_of_digitFree (h : DigitFree s) : numerals s = [] := by
  induction s with
  | nil => exact numerals_nil
  | cons c s ih =>
    have hs : DigitFree s := fun c' hc' => h c' (List.mem_cons_of_mem c hc')
    rw [numerals_of_other (numeral?_none h.endsNumeral fun _ => hs.endsNumeral), ih hs]

/-- A stretch without digits ends a numeral, whatever is behind it, unless its last character is a
point that digits follow. -/
theorem endsNumeral_append {u : List Char} (ha : DigitFree a) (hne : a ≠ [])
    (hpoint : a.getLast? = some '.' → u.head? = some '.') : EndsNumeral (a ++ u) := by
  obtain ⟨c, a, rfl⟩ := List.exists_cons_of_ne_nil hne
  refine ⟨endsRun_cons (ha c List.mem_cons_self), ?_⟩
  -- If the stretch begins with a point, what is behind it is no digit either.
  rintro r ⟨⟩ c' hc'
  cases a with
  | nil =>
    have hhead : u.head? = some c' := hc'
    rw [hpoint rfl] at hhead
    cases hhead
    decide
  | cons c₂ a =>
    cases hc'
    exact ha c' (by simp)

/-- A numeral without a sign is one with nothing in front of it. -/
theorem numeral?_of_unsigned {u rest : List Char} {digits : List Char × List Char}
    (hu : unsignedNumeral? u = some (digits, rest)) :
    numeral? u = some (⟨false, digits.1, digits.2⟩, rest) := by
  -- What begins with a sign is no numeral without one.
  have hsign {c : Char} (hc : isDecimal c = false) (hpoint : c ≠ '.') (r : List Char) :
      u ≠ c :: r := by
    rintro rfl
    rw [unsignedNumeral?_none (endsNumeral_cons hc hpoint)] at hu
    cases hu
  unfold numeral?
  split
  · next r => exact absurd rfl (hsign (by decide) (by decide) r)
  · next r => exact absurd rfl (hsign (by decide) (by decide) r)
  · rw [hu]
    rfl

/-- Behind a stretch without digits stands a numeral, with the sign at the end of the stretch, if
there is one. A point at the end has to be no part of the numeral. -/
theorem numerals_append {u rest : List Char} {digits : List Char × List Char} (ha : DigitFree a)
    (hu : unsignedNumeral? u = some (digits, rest))
    (hpoint : a.getLast? = some '.' → u.head? = some '.') :
    numerals (a ++ u) = ⟨a.getLast? = some '-', digits.1, digits.2⟩ :: numerals rest := by
  induction a with
  | nil => exact numerals_of_numeral (numeral?_of_unsigned hu)
  | cons c a ih =>
    have haRest : DigitFree a := fun c' hc' => ha c' (List.mem_cons_of_mem c hc')
    have hends : EndsNumeral (c :: (a ++ u)) := endsNumeral_append ha (List.cons_ne_nil c a) hpoint
    cases a with
    | nil =>
      -- The numeral begins with the last character if that is a sign, and behind it if not.
      by_cases hminus : c = '-'
      · subst hminus
        exact numerals_of_numeral (by simp [numeral?, hu])
      · by_cases hplus : c = '+'
        · subst hplus
          exact numerals_of_numeral (by simp [numeral?, hu])
        · have hnone : numeral? (c :: ([] ++ u)) = none :=
            numeral?_none hends fun h => absurd h (not_or.mpr ⟨hminus, hplus⟩)
          rw [List.cons_append, numerals_of_other hnone, ih haRest nofun]
          simp [hminus]
    | cons c₂ a =>
      -- The first character is passed by, even if it is a sign, since no numeral begins behind it.
      rw [List.getLast?_cons_cons] at hpoint ⊢
      have hnone : numeral? (c :: (c₂ :: a ++ u)) = none :=
        numeral?_none hends fun _ => endsNumeral_append haRest (List.cons_ne_nil c₂ a) hpoint
      rw [List.cons_append, numerals_of_other hnone, ih haRest hpoint]

/-! ## Texts with one numeral -/

/-- The sign that a text ends with, if it ends with one. -/
def lastSign (a : List Char) : List Char :=
  match a.getLast? with
  | some '+' => ['+']
  | some '-' => ['-']
  | _ => []

/-- The texts whose digits are those of a single number, and the numeral that writes this number. It
takes a sign in front of it. -/
inductive SoleNumber : List Char → List Char → Prop
  | /-- There is one row of digits, with no point in front. -/
    whole {a d b : List Char} (ha : DigitFree a) (hd : IsRun d) (hb : DigitFree b)
      (hpoint : a.getLast? ≠ some '.') : SoleNumber (a ++ (d ++ b)) (lastSign a ++ d)
  | /-- There is one row of digits, with a point in front. -/
    fraction {a d b : List Char} (ha : DigitFree a) (hd : IsRun d) (hb : DigitFree b) :
      SoleNumber (a ++ '.' :: (d ++ b)) (lastSign a ++ '.' :: d)
  | /-- There are two rows of digits with just a point between them, and no point in front. -/
    both {a d e b : List Char} (ha : DigitFree a) (hd : IsRun d) (he : IsRun e)
      (hb : DigitFree b) (hpoint : a.getLast? ≠ some '.') :
      SoleNumber (a ++ (d ++ '.' :: (e ++ b))) (lastSign a ++ (d ++ '.' :: e))

/-- In a text with digits there is a first numeral. The others are those of the rest behind it, and
if the rest has no digits, those of the text are the digits of a single number. -/
theorem exists_first (h : ¬ DigitFree s) : ∃ n rest, numerals s = n :: numerals rest ∧
    (DigitFree rest → ∃ x, SoleNumber s x) := by
  obtain ⟨a, d, r, rfl, ha, hd, hr⟩ := exists_run h
  by_cases hpoint : a.getLast? = some '.'
  · -- The point belongs to the digits behind it.
    obtain ⟨a, rfl⟩ := List.getLast?_eq_some_iff.mp hpoint
    rw [List.append_assoc, List.singleton_append]
    have ha' : DigitFree a := fun c hc => ha c (List.mem_append_left _ hc)
    have hu : unsignedNumeral? ('.' :: (d ++ r)) = some (([], d), r) :=
      unsignedNumeral?_point (w := []) nofun hd hr
    exact ⟨_, r, numerals_append ha' hu fun _ => rfl, fun hb => ⟨_, .fraction ha' hd hb⟩⟩
  · -- The numeral begins with the digits, and goes on if a point and more digits follow.
    have hfree {u : List Char} : a.getLast? = some '.' → u.head? = some '.' :=
      fun h => absurd h hpoint
    rcases hr.cases with hend | ⟨e, rest, rfl, he, hrest⟩
    · have hu := unsignedNumeral?_run hd hend
      exact ⟨_, r, numerals_append ha hu hfree, fun hb => ⟨_, .whole ha hd hb hpoint⟩⟩
    · have hu := unsignedNumeral?_point hd.2 he hrest
      exact ⟨_, rest, numerals_append ha hu hfree, fun hb => ⟨_, .both ha hd he hb hpoint⟩⟩

/-- A text has no numerals exactly if it has no digits. -/
theorem numerals_eq_nil_iff : numerals s = [] ↔ DigitFree s := by
  refine ⟨fun h => Classical.byContradiction fun hdigits => ?_, numerals_of_digitFree⟩
  obtain ⟨n, rest, hs, -⟩ := exists_first hdigits
  rw [h] at hs
  cases hs

/-- If a text has one numeral, its digits are those of a single number. -/
theorem exists_soleNumber {n : Numeral} (h : numerals s = [n]) : ∃ x, SoleNumber s x := by
  have hdigits : ¬ DigitFree s := by
    intro hfree
    rw [numerals_of_digitFree hfree] at h
    cases h
  obtain ⟨n', rest, hs, hsole⟩ := exists_first hdigits
  rw [h] at hs
  exact hsole (numerals_eq_nil_iff.mp (List.cons.inj hs).2.symm)

end GpuMetrics.Reading
