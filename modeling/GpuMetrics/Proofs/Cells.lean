import GpuMetrics.Proofs.Numerals

/-!
# What cells are read as

A cell that is neither a bit mask nor a state word has a value exactly if its digits are those of a
single number (`Reading.SoleNumber`). Its value is then what the numeral of that number writes by
itself, scaled by the unit of the column. The reader of single numbers takes the numerals that are
found in cells as they are: no white space stands at their ends, no underscore among their digits,
and they are not the name of infinity (`Decimal.exactNumber?_of_isNumeral`).
-/

namespace GpuMetrics

/-! ## Characters of numerals -/

namespace Text

/-- A digit is not blank. -/
theorem isBlank_of_isDecimal {c : Char} (h : isDecimal c = true) : isBlank c = false := by
  unfold isDecimal digitValue? at h
  unfold isBlank
  simp only at h ⊢
  generalize c.toNat = n at h ⊢
  by_cases hascii : n < 128
  · rw [if_pos hascii] at h
    split at h
    · next hdigit =>
      simp at hdigit
      simp
      omega
    · cases h
  · rw [if_neg hascii, Option.isSome_map, List.find?_isSome] at h
    obtain ⟨z, hz, hn⟩ := h
    simp at hn
    -- No script has its digits where a blank is.
    have hscripts : ∀ z ∈ scriptZeros, 0xA0 < z ∧ z + 10 ≤ 0x1680 ∨ 0x1680 < z ∧ z + 10 ≤ 0x2000 ∨
        0x3000 < z := by decide
    have := hscripts z hz
    simp
    omega

/-- A digit is no capital letter. -/
theorem toLower_of_isDecimal {c : Char} (h : isDecimal c = true) : c.toLower = c := by
  have hcapital : ¬ (c.val ≥ 'A'.val ∧ c.val ≤ 'Z'.val) := by
    rintro ⟨hfirst, hlast⟩
    have hrange : 65 ≤ c.toNat ∧ c.toNat ≤ 90 := ⟨hfirst, hlast⟩
    have hascii : c.toNat < 128 := by omega
    have hdigit : ¬ (48 ≤ c.toNat ∧ c.toNat ≤ 57) := by omega
    simp [isDecimal, digitValue?, hascii] at h
    omega
  exact dif_neg hcapital

end Text

/-! ## Numerals by themselves -/

namespace Decimal

open Text (isDecimal)
open Reading (IsRun EndsRun lastSign)

variable {a d e u w x : List Char}

/-- A text without underscores is read as it is. -/
theorem withoutJoints?_of_notMem (h : '_' ∉ x) (before : Option Char) :
    withoutJoints? isDecimal before x = some x := by
  induction x generalizing before with
  | nil => rfl
  | cons c x ih =>
    rw [List.mem_cons, not_or] at h
    have hc : c ≠ '_' := fun hc => h.1 hc.symm
    rw [withoutJoints?, ih h.2]
    · rfl
    · exact fun hc' => hc hc'

/-- A text without white space is not trimmed. -/
theorem trimSpace_eq_self (h : ∀ c ∈ x, Text.isSpace c = false) : Text.trimSpace x = x := by
  have hdrop : ∀ y : List Char, (∀ c ∈ y, Text.isSpace c = false) →
      y.dropWhile Text.isSpace = y := by
    intro y hy
    cases y with
    | nil => rfl
    | cons c y => rw [List.dropWhile_cons_of_neg (by simp [hy c List.mem_cons_self])]
  rw [Text.trimSpace, hdrop x h, hdrop x.reverse fun c hc => h c (List.mem_reverse.mp hc),
    List.reverse_reverse]

/-- The decimal that digits write. -/
theorem decimal?_run (hd : IsRun d) : decimal? isDecimal d = some (.ofDigits d []) := by
  have hnil : EndsRun [] := nofun
  have htake := Reading.takeWhile_append hd.2 hnil
  have hdrop := Reading.dropWhile_append hd.2 hnil
  rw [List.append_nil] at htake hdrop
  unfold decimal?
  simp [htake, hdrop, hd.1, exponent?]

/-- The decimal that digits write with a point in front of them or among them. -/
theorem decimal?_point (hw : ∀ c ∈ w, isDecimal c = true) (he : IsRun e) :
    decimal? isDecimal (w ++ '.' :: e) = some (.ofDigits w e) := by
  have hpoint : EndsRun ('.' :: e) := Reading.endsRun_cons (by decide)
  have hnil : EndsRun [] := nofun
  have htake := Reading.takeWhile_append he.2 hnil
  have hdrop := Reading.dropWhile_append he.2 hnil
  rw [List.append_nil] at htake hdrop
  unfold decimal?
  simp [Reading.takeWhile_append hw hpoint, Reading.dropWhile_append hw hpoint, htake, hdrop, he.1,
    exponent?]

/-- Whether a text has digits and points only. -/
def IsPointed (u : List Char) : Prop := ∀ c ∈ u, isDecimal c = true ∨ c = '.'

/-- The sign in front of digits and points is the only one. -/
theorem sign_append (hu : IsPointed u) :
    sign (lastSign a ++ u) = (decide (a.getLast? = some '-'), u) := by
  have hplain : sign u = (false, u) := by
    unfold sign
    split
    · exact absurd (hu '-' List.mem_cons_self) (by decide)
    · exact absurd (hu '+' List.mem_cons_self) (by decide)
    · rfl
  unfold lastSign
  split
  · next h => rw [h]; rfl
  · next h => rw [h]; rfl
  · next _ h =>
    have hminus : ¬ a.getLast? = some '-' := h
    rw [List.nil_append, hplain]
    simp [hminus]

/-- Digits and points are not the name of infinity or of what is no number. -/
theorem ofList_toLower_ne (hu : IsPointed u) {name : String} (hname : 'n' ∈ name.toList) :
    String.ofList (u.map Char.toLower) ≠ name := by
  rintro rfl
  rw [String.toList_ofList] at hname
  obtain ⟨c, hc, hlower⟩ := List.mem_map.mp hname
  rcases hu c hc with hdigit | rfl
  · rw [Text.toLower_of_isDecimal hdigit] at hlower
    rw [hlower] at hdigit
    exact absurd hdigit (by decide)
  · exact absurd hlower (by decide)

/-- A sign and digits and points are read as a decimal, with nothing taken away. -/
theorem exactNumber?_append (hu : IsPointed u) :
    exactNumber? (String.ofList (lastSign a ++ u)) =
      (decimal? isDecimal u).map fun n => signed (a.getLast? = some '-') n.toFloat := by
  have hchars : ∀ c ∈ lastSign a ++ u, isDecimal c = true ∨ c = '.' ∨ c = '+' ∨ c = '-' := by
    intro c hc
    rcases List.mem_append.mp hc with hsign | hmem
    · unfold lastSign at hsign
      split at hsign
      · exact .inr (.inr (.inl (List.mem_singleton.mp hsign)))
      · exact .inr (.inr (.inr (List.mem_singleton.mp hsign)))
      · cases hsign
    · exact (hu c hmem).imp_right .inl
  have hspace : ∀ c ∈ lastSign a ++ u, Text.isSpace c = false := by
    intro c hc
    rcases hchars c hc with hdigit | rfl | rfl | rfl
    · rw [Text.isSpace, Text.isBlank_of_isDecimal hdigit, Bool.false_and]
    all_goals decide
  have hline : '_' ∉ lastSign a ++ u := fun h => absurd (hchars '_' h) (by decide)
  have hinf : 'n' ∈ "inf".toList := by decide
  have hinfinity : 'n' ∈ "infinity".toList := by decide
  have hnan : 'n' ∈ "nan".toList := by decide
  rw [exactNumber?, String.toList_ofList, trimSpace_eq_self hspace,
    withoutJoints?_of_notMem hline, Option.bind_some, number?, sign_append hu]
  simp [ofList_toLower_ne hu hinf, ofList_toLower_ne hu hinfinity, ofList_toLower_ne hu hnan]

end Decimal

/-! ## Cells -/

namespace Reading

variable {a b s u w f x : List Char}

/-- Between two stretches without digits, digits and points that are read as a numeral make the only
one, and its value is what it writes by itself. -/
theorem exists_numeral (ha : DigitFree a) (hb : DigitFree b)
    (hnumeral : unsignedNumeral? (u ++ b) = some ((w, f), b))
    (hpoint : a.getLast? = some '.' → (u ++ b).head? = some '.') (hu : Decimal.IsPointed u)
    (hvalue : Decimal.decimal? Text.isDecimal u = some (.ofDigits w f)) :
    ∃ n, numerals (a ++ (u ++ b)) = [n] ∧
      Decimal.exactNumber? (String.ofList (lastSign a ++ u)) = some n.value := by
  refine ⟨⟨a.getLast? = some '-', w, f⟩, ?_, ?_⟩
  · rw [numerals_append ha hnumeral hpoint, numerals_of_digitFree hb]
  · rw [Decimal.exactNumber?_append hu, hvalue]
    rfl

/-- If the digits of a text are those of a single number, the text has one numeral, and its value is
what the numeral of that number writes by itself. -/
theorem SoleNumber.exists_numeral (h : SoleNumber s x) :
    ∃ n, numerals s = [n] ∧ Decimal.exactNumber? (String.ofList x) = some n.value := by
  cases h with
  | whole ha hd hb hpoint =>
    exact Reading.exists_numeral ha hb (unsignedNumeral?_run hd hb.endsNumeral)
      (fun h => absurd h hpoint) (fun c hc => .inl (hd.2 c hc)) (Decimal.decimal?_run hd)
  | @fraction a d b ha hd hb =>
    have hpointed : Decimal.IsPointed ('.' :: d) :=
      List.forall_mem_cons.mpr ⟨.inr rfl, fun c hc => .inl (hd.2 c hc)⟩
    exact Reading.exists_numeral (u := '.' :: d) ha hb
      (unsignedNumeral?_point (w := []) nofun hd hb.endsRun) (fun _ => rfl) hpointed
      (Decimal.decimal?_point (w := []) nofun hd)
  | @both a d e b ha hd he hb hpoint =>
    have hpointed : Decimal.IsPointed (d ++ '.' :: e) := by
      refine List.forall_mem_append.mpr ⟨fun c hc => .inl (hd.2 c hc), ?_⟩
      exact List.forall_mem_cons.mpr ⟨.inr rfl, fun c hc => .inl (he.2 c hc)⟩
    have htext : d ++ '.' :: (e ++ b) = (d ++ '.' :: e) ++ b := by simp
    have hnumeral := unsignedNumeral?_point hd.2 he hb.endsRun
    rw [htext] at hnumeral ⊢
    exact Reading.exists_numeral ha hb hnumeral (fun h => absurd h hpoint) hpointed
      (Decimal.decimal?_point hd.2 he)

/-- A word that is none of the state words has no code. -/
theorem stateCode?_eq_none {word : String} (h : ∀ e ∈ stateCodes, word ∉ e.1) :
    stateCode? word = none := by
  rw [stateCode?, Option.map_eq_none_iff, List.find?_eq_none]
  intro e he hword
  exact h e he (List.contains_iff_mem.mp hword)

/-- A cell that is neither a bit mask nor a state word is read as the single number in it. -/
theorem ofCell_eq_onlyNumber {raw : String} (multiplier : Float)
    (hmask : Text.startsWith "0x" (Text.trimmed raw) = false)
    (hword : ∀ e ∈ stateCodes, Text.lowered (Text.trimmed raw) ∉ e.1) :
    ofCell raw multiplier = onlyNumber (Text.lowered (Text.trimmed raw)) multiplier := by
  rw [ofCell, hmask]
  simp only [Bool.false_eq_true, if_false, stateCode?_eq_none hword]

/-- A cell that is neither a bit mask nor a state word has a value exactly if its text, trimmed and
in small letters, has the digits of a single number. The value is what the numeral of this number
writes by itself, times the multiplier. In every other case the fault is that the text does not hold
exactly one number. -/
theorem ofCell_decision {raw text : String} (htext : text = Text.lowered (Text.trimmed raw))
    (hmask : Text.startsWith "0x" (Text.trimmed raw) = false)
    (hword : ∀ e ∈ stateCodes, text ∉ e.1) (multiplier : Float) :
    ((∃ y, ofCell raw multiplier = .ok y) ↔ ∃ x, SoleNumber text.toList x) ∧
      (∀ x, SoleNumber text.toList x → ∃ y, Decimal.exactNumber? (String.ofList x) = some y ∧
        ofCell raw multiplier = .ok (y * multiplier)) ∧
      ((¬ ∃ x, SoleNumber text.toList x) →
        ofCell raw multiplier = .error (.notOneNumber text)) := by
  subst htext
  rw [ofCell_eq_onlyNumber multiplier hmask hword]
  generalize Text.lowered (Text.trimmed raw) = text
  have hvalue : ∀ x, SoleNumber text.toList x → ∃ y,
      Decimal.exactNumber? (String.ofList x) = some y ∧
        onlyNumber text multiplier = .ok (y * multiplier) := by
    intro x hx
    obtain ⟨n, hn, hy⟩ := hx.exists_numeral
    exact ⟨n.value, hy, by rw [onlyNumber, hn]⟩
  have hfault : (¬ ∃ x, SoleNumber text.toList x) →
      onlyNumber text multiplier = .error (.notOneNumber text) := by
    intro hnone
    unfold onlyNumber
    split
    · next n hn => exact absurd (exists_soleNumber hn) hnone
    · rfl
  refine ⟨⟨?_, ?_⟩, hvalue, hfault⟩
  · rintro ⟨y, hy⟩
    refine Classical.byContradiction fun hnone => ?_
    rw [hfault hnone] at hy
    cases hy
  · rintro ⟨x, hx⟩
    obtain ⟨y, -, hy⟩ := hvalue x hx
    exact ⟨_, hy⟩

/-- In `about -1.5 w` the digits are those of `-1.5`. -/
theorem soleNumber_about : SoleNumber "about -1.5 w".toList "-1.5".toList := by
  have hfront : DigitFree "about -".toList := by decide
  have hwhole : IsRun "1".toList := by decide
  have hfraction : IsRun "5".toList := by decide
  have hback : DigitFree " w".toList := by decide
  exact .both hfront hwhole hfraction hback (by decide)

/-- A cell with a number between words is read as that number, scaled. -/
theorem ofCell_about : ofCell " About -1.5 W" 1000 = .ok (-1500) := by
  have htext : "about -1.5 w" = Text.lowered (Text.trimmed " About -1.5 W") := by decide +kernel
  have hmask : Text.startsWith "0x" (Text.trimmed " About -1.5 W") = false := by decide
  have hword : ∀ e ∈ stateCodes, "about -1.5 w" ∉ e.1 := by decide
  obtain ⟨y, hy, hcell⟩ := (ofCell_decision htext hmask hword 1000).2.1 _ soleNumber_about
  have hvalue : Decimal.exactNumber? (String.ofList "-1.5".toList) = some (-1.5) := rfl
  rw [hy] at hvalue
  rw [hcell, Option.some.inj hvalue]
  rfl

end Reading

end GpuMetrics
