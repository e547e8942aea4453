import GpuMetrics.Text.Blank
import GpuMetrics.Text.ShellWords
import Mathlib.Tactic.SplitIfs

/-!
# Which command lines can be cut into words

A command line is closed if it is made of plain characters, backslashes that each escape the
character behind them, and quoted parts that come to their end (`Closed`). The closed lines are
those that can be cut into words (`exists_words_iff`): the reader goes from place to place by the
characters alone, whatever words it builds (`Place.next`), it ends outside quotes exactly if the
line is closed (`closed_iff`), and at every other place its end is a fault (`words_eq_error_iff`). A
line that can be cut has a word unless it is blank (`words_ne_nil`).
-/

namespace GpuMetrics.Text.ShellWords

/-! ## The way of the reader -/

/-- The place of the reader behind one more character. -/
def Place.next : Place → Char → Place
  | bare, c =>
    if c = singleQuote then single
    else if c = doubleQuote then double
    else if c = '\\' then bareEscape
    else bare
  | single, c => if c = singleQuote then bare else single
  | double, c => if c = doubleQuote then bare else if c = '\\' then doubleEscape else double
  | bareEscape, _ => bare
  | doubleEscape, _ => double

/-- The place of the reader behind some characters. -/
def Place.after (place : Place) (s : List Char) : Place := s.foldl next place

/-- Nothing leaves the reader where it is. -/
@[simp] theorem Place.after_nil (place : Place) : place.after [] = place := rfl

/-- The reader takes the first character, and then the others. -/
@[simp] theorem Place.after_cons (place : Place) (c : Char) (s : List Char) :
    place.after (c :: s) = (place.next c).after s := rfl

/-- The reader takes the first text, and then the second. -/
@[simp] theorem Place.after_append (place : Place) (s r : List Char) :
    place.after (s ++ r) = (place.after s).after r := List.foldl_append

/-- What is wrong with a line that ends at a place. -/
def Place.fault? : Place → Option Fault
  | bare => none
  | single => some .openQuote
  | double => some .openQuote
  | bareEscape => some .openEscape
  | doubleEscape => some .openEscape

/-- The characters that separate words. -/
theorem isSeparator_iff {c : Char} :
    isSeparator c = true ↔ c = ' ' ∨ c = '\t' ∨ c = '\r' ∨ c = '\n' := by
  unfold isSeparator
  simp only [Bool.or_eq_true, decide_eq_true_eq, or_assoc]

/-- A character that separates words is no quote and no backslash. -/
theorem next_of_isSeparator {c : Char} (h : isSeparator c = true) :
    Place.next .bare c = .bare := by
  rcases isSeparator_iff.mp h with rfl | rfl | rfl | rfl <;> decide

/-- Characters that separate words are blank. -/
theorem isBlank_of_isSeparator {c : Char} (h : isSeparator c = true) : isBlank c = true := by
  rcases isSeparator_iff.mp h with rfl | rfl | rfl | rfl <;> decide

/-- A fault is not lost when a word is put in front. -/
theorem map_eq_error_iff {ε α β : Type} {x : Except ε α} {f : α → β} {e : ε} :
    x.map f = .error e ↔ x = .error e := by
  cases x with
  | error e' => simp [Except.map]
  | ok a => simp [Except.map]

/-- A word is put in front of words that there are. -/
theorem map_eq_ok_iff {ε α β : Type} {x : Except ε α} {f : α → β} {b : β} :
    x.map f = .ok b ↔ ∃ a, x = .ok a ∧ f a = b := by
  cases x with
  | error e => simp [Except.map]
  | ok a => simp [Except.map]

/-- The rest of a line cannot be cut exactly if the reader ends at a place with a fault, whatever
word was begun. -/
theorem wordsFrom_eq_error_iff {place : Place} {word : Option (List Char)} {s : List Char}
    {f : Fault} : wordsFrom place word s = .error f ↔ (place.after s).fault? = some f := by
  induction s generalizing place word with
  | nil => cases place <;> simp [wordsFrom, Place.fault?]
  | cons c r ih =>
    rw [Place.after_cons]
    cases place with
    | bare =>
      by_cases hseparator : isSeparator c = true
      · rw [wordsFrom, if_pos hseparator, map_eq_error_iff, ih, next_of_isSeparator hseparator]
      · rw [wordsFrom, if_neg hseparator, Place.next]
        split_ifs <;> exact ih
    | single =>
      rw [wordsFrom, Place.next]
      split_ifs <;> exact ih
    | double =>
      rw [wordsFrom, Place.next]
      split_ifs <;> exact ih
    | bareEscape => exact ih
    | doubleEscape =>
      rw [wordsFrom, Place.next]
      split_ifs <;> exact ih

/-- A line cannot be cut into words exactly if the reader ends at a place with a fault. -/
theorem words_eq_error_iff {line : String} {f : Fault} :
    words line = .error f ↔ (Place.bare.after line.toList).fault? = some f := by
  rw [words, map_eq_error_iff, wordsFrom_eq_error_iff]

/-! ## Closed lines -/

/-- What may stand between double quotes: characters other than a double quote and a backslash, and
backslashes with a character behind each. -/
inductive Quotable : List Char → Prop
  | /-- Nothing. -/
    nil : Quotable []
  | /-- A plain character. -/
    plain {c : Char} {s : List Char} (hquote : c ≠ doubleQuote) (hescape : c ≠ '\\')
      (hs : Quotable s) : Quotable (c :: s)
  | /-- A character behind a backslash. -/
    escaped (c : Char) {s : List Char} (hs : Quotable s) : Quotable ('\\' :: c :: s)

/-- A line whose quotes are closed and whose backslashes escape something. -/
inductive Closed : List Char → Prop
  | /-- Nothing. -/
    nil : Closed []
  | /-- A plain character. -/
    plain {c : Char} {s : List Char} (hsingle : c ≠ singleQuote) (hdouble : c ≠ doubleQuote)
      (hescape : c ≠ '\\') (hs : Closed s) : Closed (c :: s)
  | /-- A character behind a backslash. -/
    escaped (c : Char) {s : List Char} (hs : Closed s) : Closed ('\\' :: c :: s)
  | /-- Single quotes around characters other than single quotes. -/
    single {part s : List Char} (hpart : singleQuote ∉ part) (hs : Closed s) :
      Closed (singleQuote :: part ++ singleQuote :: s)
  | /-- Double quotes around what may stand between them. -/
    double {part s : List Char} (hpart : Quotable part) (hs : Closed s) :
      Closed (doubleQuote :: part ++ doubleQuote :: s)

/-- Between single quotes the reader stays there until the next one. -/
theorem after_of_notMem {part : List Char} (h : singleQuote ∉ part) :
    Place.single.after part = .single := by
  induction part with
  | nil => rfl
  | cons c s ih =>
    rw [List.mem_cons, not_or] at h
    have hnext : Place.next .single c = .single := by
      rw [Place.next, if_neg (Ne.symm h.1)]
    rw [Place.after_cons, hnext, ih h.2]

/-- Between double quotes the reader is still there behind what may stand between them. -/
theorem after_of_quotable {part : List Char} (h : Quotable part) :
    Place.double.after part = .double := by
  induction h with
  | nil => rfl
  | plain hquote hescape _ ih =>
    rw [Place.after_cons, Place.next, if_neg hquote, if_neg hescape, ih]
  | escaped c _ ih =>
    have hescape : Place.next .double '\\' = .doubleEscape := by decide
    rw [Place.after_cons, Place.after_cons, hescape, Place.next, ih]

/-- Behind a closed line the reader is outside quotes. -/
theorem after_of_closed {s : List Char} (h : Closed s) : Place.bare.after s = .bare := by
  induction h with
  | nil => rfl
  | plain hsingle hdouble hescape _ ih =>
    rw [Place.after_cons, Place.next, if_neg hsingle, if_neg hdouble, if_neg hescape, ih]
  | escaped c _ ih =>
    have hescape : Place.next .bare '\\' = .bareEscape := by decide
    rw [Place.after_cons, Place.after_cons, hescape, Place.next, ih]
  | single hpart _ ih =>
    have hopen : Place.next .bare singleQuote = .single := by decide
    have hclose : Place.next .single singleQuote = .bare := by decide
    rw [List.cons_append, Place.after_cons, Place.after_append, hopen, after_of_notMem hpart,
      Place.after_cons, hclose, ih]
  | double hpart _ ih =>
    have hopen : Place.next .bare doubleQuote = .double := by decide
    have hclose : Place.next .double doubleQuote = .bare := by decide
    rw [List.cons_append, Place.after_cons, Place.after_append, hopen, after_of_quotable hpart,
      Place.after_cons, hclose, ih]

/-- The rest of a line that closes what was open at a place. -/
def ClosedFrom : Place → List Char → Prop
  | .bare, s => Closed s
  | .single, s => ∃ part r, s = part ++ singleQuote :: r ∧ singleQuote ∉ part ∧ Closed r
  | .double, s => ∃ part r, s = part ++ doubleQuote :: r ∧ Quotable part ∧ Closed r
  | .bareEscape, s => ∃ c r, s = c :: r ∧ Closed r
  | .doubleEscape, s =>
    ∃ c part r, s = c :: part ++ doubleQuote :: r ∧ Quotable part ∧ Closed r

/-- If the reader comes from a place to the outside of quotes, the characters on its way close what
was open there. -/
theorem closedFrom_of_after {place : Place} {s : List Char} (h : place.after s = .bare) :
    ClosedFrom place s := by
  induction s generalizing place with
  | nil =>
    rw [Place.after_nil] at h
    subst h
    exact .nil
  | cons c r ih =>
    rw [Place.after_cons] at h
    have hrest : ClosedFrom (place.next c) r := ih h
    -- What is known of the rest depends on where the reader stands behind the first character, so
    -- the cases are those of its step.
    cases place with
    | bare =>
      rw [Place.next] at hrest
      split_ifs at hrest with hsingle hdouble hescape
      · obtain ⟨part, r', rfl, hpart, hr'⟩ := hrest
        rw [hsingle]
        exact .single hpart hr'
      · obtain ⟨part, r', rfl, hpart, hr'⟩ := hrest
        rw [hdouble]
        exact .double hpart hr'
      · obtain ⟨e, r', rfl, hr'⟩ := hrest
        rw [hescape]
        exact .escaped e hr'
      · exact .plain hsingle hdouble hescape hrest
    | single =>
      rw [Place.next] at hrest
      split_ifs at hrest with hclose
      · exact ⟨[], r, by rw [hclose]; rfl, List.not_mem_nil, hrest⟩
      · obtain ⟨part, r', rfl, hpart, hr'⟩ := hrest
        have hnone : singleQuote ∉ c :: part := by
          rw [List.mem_cons, not_or]
          exact ⟨Ne.symm hclose, hpart⟩
        exact ⟨c :: part, r', rfl, hnone, hr'⟩
    | double =>
      rw [Place.next] at hrest
      split_ifs at hrest with hclose hescape
      · exact ⟨[], r, by rw [hclose]; rfl, .nil, hrest⟩
      · obtain ⟨e, part, r', rfl, hpart, hr'⟩ := hrest
        exact ⟨'\\' :: e :: part, r', by rw [hescape]; rfl, .escaped e hpart, hr'⟩
      · obtain ⟨part, r', rfl, hpart, hr'⟩ := hrest
        exact ⟨c :: part, r', rfl, .plain hclose hescape hpart, hr'⟩
    | bareEscape => exact ⟨c, r, rfl, hrest⟩
    | doubleEscape =>
      obtain ⟨part, r', rfl, hpart, hr'⟩ := hrest
      exact ⟨c, part, r', rfl, hpart, hr'⟩

/-- A line is closed exactly if the reader ends outside quotes. -/
theorem closed_iff {s : List Char} : Closed s ↔ Place.bare.after s = .bare :=
  ⟨after_of_closed, closedFrom_of_after⟩

/-- The reader ends outside quotes exactly if there is no fault. -/
theorem fault?_eq_none_iff {place : Place} : place.fault? = none ↔ place = .bare := by
  cases place <;> simp [Place.fault?]

/-- A line can be cut into words exactly if it is closed. -/
theorem exists_words_iff {line : String} :
    (∃ ws, words line = .ok ws) ↔ Closed line.toList := by
  rw [closed_iff, ← fault?_eq_none_iff]
  cases hwords : words line with
  | ok ws =>
    refine iff_of_true ⟨ws, rfl⟩ ?_
    rw [Option.eq_none_iff_forall_ne_some]
    intro f hf
    rw [words_eq_error_iff.mpr hf] at hwords
    cases hwords
  | error f =>
    rw [words_eq_error_iff.mp hwords]
    simp

/-! ## Lines without words -/

/-- A word that was begun comes to its end. -/
theorem wordsFrom_some_ne_nil {place : Place} {w : List Char} {s : List Char}
    {ws : List (List Char)} (h : wordsFrom place (some w) s = .ok ws) : ws ≠ [] := by
  induction s generalizing place w with
  | nil =>
    cases place with
    | bare =>
      cases h
      exact List.cons_ne_nil _ _
    | _ => cases h
  | cons c r ih =>
    cases place with
    | bare =>
      rw [wordsFrom] at h
      split_ifs at h with hseparator
      · obtain ⟨rest, -, rfl⟩ := map_eq_ok_iff.mp h
        exact List.cons_ne_nil _ _
      all_goals exact ih h
    | single =>
      rw [wordsFrom] at h
      split_ifs at h <;> exact ih h
    | double =>
      rw [wordsFrom] at h
      split_ifs at h <;> exact ih h
    | bareEscape => exact ih h
    | doubleEscape =>
      rw [wordsFrom] at h
      split_ifs at h <;> exact ih h

/-- A character that separates no words begins one. -/
theorem wordsFrom_none_ne_nil {s : List Char} {ws : List (List Char)}
    (h : wordsFrom .bare none s = .ok ws) {c : Char} (hmem : c ∈ s)
    (hc : isSeparator c = false) : ws ≠ [] := by
  induction s generalizing ws with
  | nil => cases hmem
  | cons d r ih =>
    rw [wordsFrom] at h
    split_ifs at h with hseparator
    · have hrest : c ∈ r := by
        rcases List.mem_cons.mp hmem with rfl | hrest
        · rw [hc] at hseparator
          cases hseparator
        · exact hrest
      obtain ⟨rest, hwords, rfl⟩ := map_eq_ok_iff.mp h
      exact ih hwords hrest
    all_goals exact wordsFrom_some_ne_nil h

/-- A line that is not blank has a word, if it can be cut into words at all. -/
theorem words_ne_nil {line : String} {ws : List String} (h : words line = .ok ws)
    (hblank : allBlank line.toList = false) : ws ≠ [] := by
  obtain ⟨c, hmem, hc⟩ : ∃ c ∈ line.toList, ¬ isBlank c = true := by
    simpa [allBlank] using hblank
  have hseparator : isSeparator c = false := by
    rw [Bool.eq_false_iff]
    exact fun h => hc (isBlank_of_isSeparator h)
  obtain ⟨found, hwords, rfl⟩ := map_eq_ok_iff.mp h
  have hfound : found ≠ [] := wordsFrom_none_ne_nil hwords hmem hseparator
  simpa using hfound

end GpuMetrics.Text.ShellWords
