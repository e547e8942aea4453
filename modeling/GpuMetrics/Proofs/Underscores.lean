import GpuMetrics.Proofs.SmallLetters

/-!
# Where underscores are put

The snake case of an ASCII text is its small form with underscores between some of its characters.
`Underscored` says where they can be and where they have to be. Both passes of the parting are
looked at together: along a text, the first pass has put an underscore in front of the next
character or has left it to the second one (`underscored_cons`), so that the result of both follows
the rules (`underscored_parted`). Whatever follows them has the characters of the small form, the
first and the last one at its ends.

Parting a text once more changes nothing, since a small form has no capital letters. This holds of
every text, not of those of ASCII only (`toSnakeCase_toSnakeCase`).
-/

namespace GpuMetrics.Metric

variable {c : Char} {r s t : List Char} {inWord : Bool}

/-! ## Rules for underscores -/

/-- A text, and its small form with underscores in it. An underscore stands between two characters
of the text, the second of which is a capital letter. A small letter or a digit and a capital letter
behind it always have one between them. -/
inductive Underscored : List Char → List Char → Prop
  | /-- Nothing is put into an empty text. -/
    nil : Underscored [] []
  | /-- Nothing is put behind the last character. -/
    last (c : Char) : Underscored [c] [c.toLower]
  | /-- Two characters can stay together, but no small letter or digit and a capital letter. -/
    together {c d : Char} {r t : List Char}
      (h : isSmall c = true ∨ Text.isAsciiDigit c = true → isCapital d = false)
      (ht : Underscored (d :: r) t) : Underscored (c :: d :: r) (c.toLower :: t)
  | /-- A capital letter can be parted from the character in front of it. -/
    apart {c d : Char} {r t : List Char} (h : isCapital d = true)
      (ht : Underscored (d :: r) t) : Underscored (c :: d :: r) (c.toLower :: '_' :: t)

namespace Underscored

/-- Without underscores the small form is left. -/
theorem filter_eq (h : Underscored s t) :
    t.filter (· ≠ '_') = (s.map Char.toLower).filter (· ≠ '_') := by
  induction h with
  | nil | last => rfl
  | together _ _ ih => rw [List.map_cons, List.filter_cons, List.filter_cons, ih]
  | @apart c d r t _ _ ih =>
    have hmark : ('_' :: t).filter (· ≠ '_') = t.filter (· ≠ '_') := rfl
    rw [List.map_cons, List.filter_cons, hmark, ih, List.filter_cons]

/-- The first character of the small form stays the first one. -/
theorem head?_eq (h : Underscored s t) : t.head? = (s.map Char.toLower).head? := by
  cases h <;> rfl

/-- The last character of the small form stays the last one. -/
theorem getLast?_eq (h : Underscored s t) : t.getLast? = (s.map Char.toLower).getLast? := by
  induction h with
  | nil | last => rfl
  | together _ ht ih =>
    cases ht <;> exact ih
  | apart _ ht ih =>
    cases ht <;> exact ih

end Underscored

/-! ## Both passes -/

/-- The second pass parts a character from the next one if it has to. -/
theorem underscored_cons (c : Char)
    (h : Underscored r ((partCapitals (partWords inWord r)).map Char.toLower)) :
    Underscored (c :: r) ((partCapitals (c :: partWords inWord r)).map Char.toLower) := by
  cases r with
  | nil => exact .last c
  | cons d r =>
    obtain ⟨t, ht, -⟩ := exists_partWords_cons inWord d r
    rw [ht] at h ⊢
    by_cases hhump : ((isSmall c || Text.isAsciiDigit c) && isCapital d) = true
    · rw [partCapitals_hump hhump]
      exact .apart (Bool.and_eq_true_iff.mp hhump).2 h
    · rw [partCapitals_other fun u r' hr => by cases hr; exact hhump]
      refine .together (fun hc => ?_) h
      simpa [hc] using hhump

/-- A capital letter is no small letter and no digit. -/
theorem not_small_of_isCapital (h : isCapital c = true) :
    isSmall c = false ∧ Text.isAsciiDigit c = false := by
  simp only [isCapital, isSmall, Text.isAsciiDigit, Bool.and_eq_true, decide_eq_true_eq,
    Bool.and_eq_false_iff, decide_eq_false_iff_not] at h ⊢
  omega

/-- A small letter is no capital letter. -/
theorem not_capital_of_isSmall (h : isSmall c = true) : isCapital c = false := by
  simp only [isCapital, isSmall, Bool.and_eq_true, decide_eq_true_eq, Bool.and_eq_false_iff,
    decide_eq_false_iff_not] at h ⊢
  omega

/-- What both passes make of a text, in small letters, follows the rules. -/
theorem underscored_parted (s : List Char) : Underscored s ((parted s).map Char.toLower) := by
  have hpassed (inWord : Bool) :
      Underscored s ((partCapitals (partWords inWord s)).map Char.toLower) := by
    induction inWord, s using partWords_induction with
    | nil => exact .nil
    | letter inWord c r hword ih =>
      rw [partWords_letter hword]
      exact underscored_cons c ih
    | hump inWord c u l r hword hhump ih =>
      obtain ⟨⟨-, hu⟩, hl⟩ : (c ≠ '\n' ∧ isCapital u = true) ∧ isSmall l = true := by
        simpa using hhump
      obtain ⟨husmall, hudigit⟩ := not_small_of_isCapital hu
      have hlcapital : isCapital l = false := not_capital_of_isSmall hl
      -- The underscore that the first pass has put parts nothing itself, and neither does the
      -- capital letter behind it.
      have hmark : partCapitals (c :: '_' :: u :: l :: partWords true r) =
          c :: '_' :: u :: partCapitals (l :: partWords true r) := by
        have hbefore : isCapital '_' = false := rfl
        have hbehind : (isSmall '_' || Text.isAsciiDigit '_') = false := rfl
        rw [partCapitals_other (by simp [hbefore]), partCapitals_other (by simp [hbehind]),
          partCapitals_other (by simp [husmall, hudigit])]
      rw [partWords_hump hword hhump, hmark]
      exact .apart hu (.together (fun _ => hlcapital) (underscored_cons l ih))
    | other inWord c r hword hother ih =>
      rw [partWords_other hword hother]
      exact underscored_cons c ih
  exact hpassed false

/-! ## Parting again -/

/-- A character that is its own small form is no capital letter. -/
theorem not_capital_of_lowerChar (h : Text.lowerChar c = [c]) : isCapital c = false := by
  rw [Bool.eq_false_iff]
  intro hcapital
  simp only [isCapital, Bool.and_eq_true, decide_eq_true_eq] at hcapital
  have hcheck := Text.of_forall_ascii (p := fun c => !isCapital c || Text.lowerChar c != [c])
    (by decide) (c := c) (by omega)
  simp [isCapital, h, hcapital] at hcheck

/-- Parting a text again changes nothing. -/
theorem toSnakeCase_toSnakeCase (s : String) : toSnakeCase (toSnakeCase s) = toSnakeCase s := by
  have hcapital : ∀ c ∈ snakeCase s.toList, isCapital c = false := fun c hc =>
    not_capital_of_lowerChar (Text.lowerChar_of_mem_lowerFrom hc)
  have hparted : parted (snakeCase s.toList) = snakeCase s.toList := parted_of_no_capital hcapital
  calc toSnakeCase (toSnakeCase s)
      = String.ofList (Text.lower (parted (snakeCase s.toList))) := by
        rw [toSnakeCase, toSnakeCase, String.toList_ofList]
        rfl
    _ = String.ofList (snakeCase s.toList) := by
        rw [hparted]
        exact congrArg String.ofList (Text.lower_lower _)

/-! ## Snake case -/

/-- What the snake case of a text has to be. -/
structure IsSnakeCase (s t : List Char) : Prop where
  /-- It is ASCII without capital letters. -/
  small : ∀ c ∈ t, c.toNat < 128 ∧ isCapital c = false
  /-- It is the small form of the text with underscores in it, where they can and have to be. -/
  underscored : Underscored s t
  /-- Apart from underscores it is the small form of the text. -/
  letters : t.filter (· ≠ '_') = (Text.lower s).filter (· ≠ '_')
  /-- It begins as the small form does. -/
  first : t.head? = (Text.lower s).head?
  /-- It ends as the small form does. -/
  last : t.getLast? = (Text.lower s).getLast?

/-- The snake case of an ASCII text is what it has to be, and has no snake case but itself. -/
theorem toSnakeCase_isSnakeCase {s : String} (h : ∀ c ∈ s.toList, c.toNat < 128) :
    IsSnakeCase s.toList (toSnakeCase s).toList ∧
      ∀ r, toSnakeCase (toSnakeCase r) = toSnakeCase r := by
  have hsnake : (toSnakeCase s).toList = (parted s.toList).map Char.toLower := by
    rw [toSnakeCase, String.toList_ofList, snakeCase_eq h]
  have hlower : Text.lower s.toList = s.toList.map Char.toLower := Text.lowerFrom_ascii false _ h
  have hparted : Underscored s.toList (toSnakeCase s).toList := by
    rw [hsnake]
    exact underscored_parted s.toList
  refine ⟨⟨?small, hparted, ?letters, ?first, ?last⟩, toSnakeCase_toSnakeCase⟩
  case small =>
    intro c hc
    rw [hsnake] at hc
    obtain ⟨d, hd, rfl⟩ := List.mem_map.mp hc
    have hascii : d.toNat < 128 := by
      rcases mem_parted hd with hd | rfl
      · exact h d hd
      · decide
    have hcheck := Text.of_forall_ascii (c := d)
      (p := fun d => decide (d.toLower.toNat < 128 ∧ isCapital d.toLower = false))
      (by decide) hascii
    exact of_decide_eq_true hcheck
  case letters =>
    rw [hlower]
    exact hparted.filter_eq
  case first =>
    rw [hlower]
    exact hparted.head?_eq
  case last =>
    rw [hlower]
    exact hparted.getLast?_eq

/-- A run of capital letters, a digit in front of one, and an underscore of the text itself. -/
theorem toSnakeCase_totalECCErrors :
    let header := "totalECCErrors2Go_Now"
    (∀ c ∈ header.toList, c.toNat < 128) ∧ toSnakeCase header = "total_ecc_errors2_go__now" ∧
      IsSnakeCase header.toList (toSnakeCase header).toList := by
  intro header
  have hascii : ∀ c ∈ header.toList, c.toNat < 128 := Text.forall_of_all (by decide +kernel)
  exact ⟨hascii, by decide +kernel, (toSnakeCase_isSnakeCase hascii).1⟩

end GpuMetrics.Metric
