import GpuMetrics.Text.Blank
import GpuMetrics.Text.Pieces
import Mathlib.Data.List.TakeWhile

/-!
# Trimming and cutting

A text is made of blanks, of what trimming leaves, and of blanks again (`exists_trim`), so trimming
changes no character that is not blank (`count_trim`). In two texts one after the other, the blanks
at the front go from the first text alone as long as it holds something that is not blank, and those
at the end from the second one in the same way. Blanks around a text make no difference to what is
left of it (`trim_surrounded`). A text is cut at a separator into the pieces of what is before it
and those of what is behind it, so texts that are joined with separators are its pieces again
(`pieces_intercalate`).
-/

namespace GpuMetrics.Text

/-! ## Blanks -/

/-- Texts one after the other are blank exactly if each of them is. -/
theorem allBlank_append (s r : List Char) : allBlank (s ++ r) = (allBlank s && allBlank r) :=
  List.all_append

/-- A text is blank exactly if nothing but blanks is at its front. -/
theorem trimLeft_eq_nil_iff {s : List Char} : trimLeft s = [] ↔ allBlank s = true := by
  rw [trimLeft, List.dropWhile_eq_nil_iff, allBlank, List.all_eq_true]

/-- What trimming leaves at the front of a text, with blanks before it. -/
theorem exists_trimLeft (s : List Char) : ∃ a, allBlank a = true ∧ s = a ++ trimLeft s :=
  ⟨s.takeWhile isBlank, List.all_takeWhile, List.takeWhile_append_dropWhile.symm⟩

/-- What trimming leaves at the end of a text, with blanks behind it. -/
theorem exists_trimRight (s : List Char) : ∃ b, allBlank b = true ∧ s = trimRight s ++ b := by
  obtain ⟨b, hb, hs⟩ := exists_trimLeft s.reverse
  refine ⟨b.reverse, by rwa [allBlank, List.all_reverse], ?_⟩
  calc s = s.reverse.reverse := s.reverse_reverse.symm
    _ = (b ++ trimLeft s.reverse).reverse := by rw [← hs]
    _ = trimRight s ++ b.reverse := List.reverse_append

/-- A text is what trimming leaves of it, with blanks on both sides. -/
theorem exists_trim (s : List Char) :
    ∃ a b, allBlank a = true ∧ allBlank b = true ∧ s = a ++ trim s ++ b := by
  obtain ⟨a, ha, hs⟩ := exists_trimLeft s
  obtain ⟨b, hb, hr⟩ := exists_trimRight (trimLeft s)
  refine ⟨a, b, ha, hb, ?_⟩
  rw [trim, List.append_assoc, ← hr, ← hs]

/-- A character that is not blank stands in a blank text nowhere. -/
theorem notMem_of_allBlank {c : Char} (hc : isBlank c = false) {s : List Char}
    (h : allBlank s = true) : c ∉ s := by
  intro hmem
  have hblank : isBlank c = true := List.all_eq_true.mp h c hmem
  rw [hc] at hblank
  cases hblank

/-- It is not counted there. -/
theorem count_of_allBlank {c : Char} (hc : isBlank c = false) {s : List Char}
    (h : allBlank s = true) : s.count c = 0 :=
  List.count_eq_zero.mpr (notMem_of_allBlank hc h)

/-- Trimming takes no character that is not blank. -/
theorem count_trim {c : Char} (hc : isBlank c = false) (s : List Char) :
    (trim s).count c = s.count c := by
  obtain ⟨a, b, ha, hb, hs⟩ := exists_trim s
  have hsum := congrArg (List.count c) hs
  rw [List.count_append, List.count_append, count_of_allBlank hc ha, count_of_allBlank hc hb]
    at hsum
  omega

/-- Trimming the front takes no character that is not blank. -/
theorem count_trimLeft {c : Char} (hc : isBlank c = false) (s : List Char) :
    (trimLeft s).count c = s.count c := by
  obtain ⟨a, ha, hs⟩ := exists_trimLeft s
  have hsum := congrArg (List.count c) hs
  rw [List.count_append, count_of_allBlank hc ha] at hsum
  omega

/-! ## Texts one after the other -/

/-- The blanks at the front go from the first text, if it is not blank. -/
theorem trimLeft_append {s : List Char} (h : allBlank s = false) (r : List Char) :
    trimLeft (s ++ r) = trimLeft s ++ r := by
  have hs : ¬ (s.dropWhile isBlank).isEmpty = true := by
    rw [List.isEmpty_iff, ← trimLeft, trimLeft_eq_nil_iff, h]
    exact Bool.false_ne_true
  rw [trimLeft, List.dropWhile_append, if_neg hs]
  rfl

/-- The blanks at the end go from the second text, if it is not blank. -/
theorem trimRight_append {r : List Char} (h : allBlank r = false) (s : List Char) :
    trimRight (s ++ r) = s ++ trimRight r := by
  have hr : allBlank r.reverse = false := by rwa [allBlank, List.all_reverse]
  have hleft := trimLeft_append hr s.reverse
  rw [trimLeft, trimLeft] at hleft
  rw [trimRight, List.reverse_append, hleft, List.reverse_append, List.reverse_reverse, trimRight]

/-- A blank text at the end is trimmed as a whole. -/
theorem trimRight_append_of_allBlank {r : List Char} (h : allBlank r = true) (s : List Char) :
    trimRight (s ++ r) = trimRight s := by
  have hr : (r.reverse.dropWhile isBlank).isEmpty = true := by
    rw [List.isEmpty_iff, ← trimLeft, trimLeft_eq_nil_iff, allBlank, List.all_reverse]
    exact h
  rw [trimRight, List.reverse_append, List.dropWhile_append, if_pos hr, trimRight]

/-- The blanks at the front go together with those that the text behind them begins with. -/
theorem trimLeft_append_of_allBlank {a : List Char} (h : allBlank a = true) (s : List Char) :
    trimLeft (a ++ s) = trimLeft s :=
  List.dropWhile_append_of_pos (List.all_eq_true.mp h)

/-- Of a blank text nothing is left. -/
theorem trim_of_allBlank {s : List Char} (h : allBlank s = true) : trim s = [] := by
  rw [trim, trimLeft_eq_nil_iff.mpr h]
  rfl

/-- Blanks around a text are trimmed with its own. -/
theorem trim_surrounded {a b : List Char} (ha : allBlank a = true) (hb : allBlank b = true)
    (s : List Char) : trim (a ++ s ++ b) = trim s := by
  cases hs : allBlank s with
  | true =>
    have hall : allBlank (a ++ s ++ b) = true := by
      rw [allBlank_append, allBlank_append, ha, hs, hb]
      rfl
    rw [trim_of_allBlank hall, trim_of_allBlank hs]
  | false =>
    calc trim (a ++ s ++ b) = trimRight (trimLeft (a ++ (s ++ b))) := by
          rw [List.append_assoc, trim]
      _ = trimRight (trimLeft s ++ b) := by
          rw [trimLeft_append_of_allBlank ha, trimLeft_append hs]
      _ = trim s := trimRight_append_of_allBlank hb _

/-- Nothing is left of a text exactly if it is blank. -/
theorem trim_eq_nil_iff {s : List Char} : trim s = [] ↔ allBlank s = true := by
  refine ⟨fun h => ?_, trim_of_allBlank⟩
  obtain ⟨a, b, ha, hb, hs⟩ := exists_trim s
  rw [hs, h, allBlank_append, allBlank_append, ha, hb]
  rfl

/-- What is left of a text has nothing to trim. -/
theorem trim_trim (s : List Char) : trim (trim s) = trim s := by
  obtain ⟨a, b, ha, hb, hs⟩ := exists_trim s
  calc trim (trim s) = trim (a ++ trim s ++ b) := (trim_surrounded ha hb _).symm
    _ = trim s := by rw [← hs]

/-- A text without blanks stays as it is. -/
theorem trim_of_notBlank {s : List Char} (h : ∀ c ∈ s, isBlank c = false) : trim s = s := by
  have hkept : ∀ r : List Char, (∀ c ∈ r, isBlank c = false) → r.dropWhile isBlank = r := by
    intro r hr
    cases r with
    | nil => rfl
    | cons c r =>
      have hc : ¬ isBlank c = true := by simp [hr c List.mem_cons_self]
      exact List.dropWhile_cons_of_neg hc
  have hback : ∀ c ∈ s.reverse, isBlank c = false := fun c hc => h c (List.mem_reverse.mp hc)
  rw [trim, trimLeft, hkept s h, trimRight, hkept s.reverse hback, List.reverse_reverse]

/-! ## Pieces -/

/-- A text with a separator has a last one. -/
theorem exists_last_separator {α : Type} {sep : α} {s : List α} (h : sep ∈ s) :
    ∃ a b, s = a ++ sep :: b ∧ sep ∉ b := by
  obtain ⟨b, a, hcut, hb⟩ := List.eq_append_cons_of_mem (List.mem_reverse.mpr h)
  refine ⟨a.reverse, b.reverse, ?_, fun hmem => hb (List.mem_reverse.mp hmem)⟩
  calc s = s.reverse.reverse := s.reverse_reverse.symm
    _ = (b ++ sep :: a).reverse := by rw [hcut]
    _ = a.reverse ++ sep :: b.reverse := by simp

/-- A text is cut at the separator behind which there is no other one. -/
theorem cutLast?_append {sep : Char} {b : List Char} (h : sep ∉ b) (a : List Char) :
    cutLast? sep (a ++ sep :: b) = some (a, b) := by
  have hback : ∀ c ∈ b.reverse, (c != sep) = true := fun c hc => by
    rw [bne_iff_ne]
    rintro rfl
    exact h (List.mem_reverse.mp hc)
  have hreverse : (a ++ sep :: b).reverse = b.reverse ++ sep :: a.reverse := by simp
  have hfront : (b.reverse ++ sep :: a.reverse).takeWhile (· != sep) = b.reverse := by
    rw [List.takeWhile_append_of_pos hback, List.takeWhile_cons_of_neg (by simp), List.append_nil]
  have hrest : (b.reverse ++ sep :: a.reverse).dropWhile (· != sep) = sep :: a.reverse := by
    rw [List.dropWhile_append_of_pos hback, List.dropWhile_cons_of_neg (by simp)]
  rw [cutLast?, hreverse, cutFirst, hrest]
  simp only [hfront, List.reverse_reverse]

/-- A text without the separator is not cut. -/
theorem cutLast?_of_notMem {sep : Char} {s : List Char} (h : sep ∉ s) : cutLast? sep s = none := by
  have hnone : s.reverse.dropWhile (· != sep) = [] := by
    rw [List.dropWhile_eq_nil_iff]
    intro c hc
    rw [bne_iff_ne]
    rintro rfl
    exact h (List.mem_reverse.mp hc)
  rw [cutLast?, cutFirst, hnone]

/-- Joined texts hold nothing but their own characters and the separator. -/
theorem notMem_intercalate {α : Type} {c sep : α} (hc : c ≠ sep) {parts : List (List α)}
    (h : ∀ p ∈ parts, c ∉ p) : c ∉ [sep].intercalate parts := by
  induction parts with
  | nil => exact List.not_mem_nil
  | cons p parts ih =>
    obtain ⟨hp, hparts⟩ := List.forall_mem_cons.mp h
    cases parts with
    | nil => rwa [List.intercalate_singleton]
    | cons q parts =>
      rw [List.intercalate_cons_cons]
      simp only [List.mem_append, List.mem_singleton, not_or]
      exact ⟨⟨hp, hc⟩, ih hparts⟩

section Pieces

variable {α : Type} [DecidableEq α] {sep : α}

/-- A text without the separator is one piece. -/
theorem pieces_of_notMem {s : List α} (h : sep ∉ s) : pieces sep s = [s] := by
  induction s with
  | nil => rfl
  | cons c r ih =>
    rw [List.mem_cons, not_or] at h
    have hc : c ≠ sep := fun hc => h.1 hc.symm
    rw [pieces, if_neg hc, ih h.2]

/-- The text before the first separator is the first piece. -/
theorem pieces_append_cons {s : List α} (h : sep ∉ s) (r : List α) :
    pieces sep (s ++ sep :: r) = s :: pieces sep r := by
  induction s with
  | nil => rw [List.nil_append, pieces, if_pos rfl]
  | cons c s ih =>
    rw [List.mem_cons, not_or] at h
    have hc : c ≠ sep := fun hc => h.1 hc.symm
    rw [List.cons_append, pieces, if_neg hc, ih h.2]

/-- No piece has the separator in it. -/
theorem notMem_of_mem_pieces {s p : List α} (h : p ∈ pieces sep s) : sep ∉ p := by
  induction s generalizing p with
  | nil =>
    rw [List.mem_singleton.mp h]
    exact List.not_mem_nil
  | cons c r ih =>
    rw [pieces] at h
    split at h
    · rcases List.mem_cons.mp h with rfl | h
      · exact List.not_mem_nil
      · exact ih h
    · next hc =>
      obtain ⟨q, qs, hqs⟩ := List.exists_cons_of_ne_nil (pieces_ne_nil sep r)
      rw [hqs] at h ih
      rcases List.mem_cons.mp h with rfl | h
      · rw [List.mem_cons, not_or]
        exact ⟨fun hsep => hc hsep.symm, ih List.mem_cons_self⟩
      · exact ih (List.mem_cons_of_mem q h)

/-- A separator cuts a text into the pieces before it and the pieces behind it. -/
theorem pieces_append (s r : List α) :
    pieces sep (s ++ sep :: r) = pieces sep s ++ pieces sep r := by
  induction s with
  | nil =>
    show pieces sep (sep :: r) = [] :: pieces sep r
    rw [pieces, if_pos rfl]
  | cons c s ih =>
    rw [List.cons_append, pieces, pieces]
    by_cases hc : c = sep
    · rw [if_pos hc, if_pos hc, ih, List.cons_append]
    · -- The character goes to the first piece, which is one of those before the separator.
      obtain ⟨p, ps, hps⟩ := List.exists_cons_of_ne_nil (pieces_ne_nil sep s)
      rw [if_neg hc, if_neg hc, ih, hps, List.cons_append, List.cons_append]

/-- Texts without the separator are the pieces of what they make when it joins them. -/
theorem pieces_intercalate {parts : List (List α)} (hne : parts ≠ [])
    (h : ∀ p ∈ parts, sep ∉ p) : pieces sep ([sep].intercalate parts) = parts := by
  induction parts with
  | nil => exact absurd rfl hne
  | cons p parts ih =>
    obtain ⟨hp, hparts⟩ := List.forall_mem_cons.mp h
    cases parts with
    | nil => rw [List.intercalate_singleton, pieces_of_notMem hp]
    | cons q parts =>
      rw [List.intercalate_cons_cons, List.append_assoc, List.singleton_append,
        pieces_append_cons hp, ih (List.cons_ne_nil q parts) hparts]

end Pieces

end GpuMetrics.Text
