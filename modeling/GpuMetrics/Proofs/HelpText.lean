import GpuMetrics.Field.Help
import GpuMetrics.Proofs.Trimming

/-!
# The fields that a help text lists

A reader of the help text goes by its lines: a field is what a line begins with between quotes, if
the line directly above is blank and is not the first line of all (`ListsField`). The program knows
no lines. It goes by the ends of lines, and it runs over as many blanks as it finds behind one.

The two agree. A line that is not blank is passed by as a whole (`fieldsOfHelp_of_notBlank`), so no
blanks before it reach what is behind it. A blank line with no quote right behind it is passed by
too, however many blanks follow (`fieldsOfHelp_blankLine`), so the blanks that one field takes are
none that another one needs. With a quote right behind it, the name there is taken, and the rest of
its line is passed by (`fieldsOfHelp_entry`). From these the fields are found line by line
(`fieldsOfHelp_newline`), and counted off by the number of the line they are those of the reader
(`listedFields_eq`).
-/

namespace GpuMetrics.Field

open Text (allBlank doubleQuote isBlank pieces)

/-! ## Lines -/

/-- A line begins with a name between quotes: one that is not empty, up to the next quote. -/
def Quotes (line name : List Char) : Prop :=
  name ≠ [] ∧ doubleQuote ∉ name ∧ ∃ rest, line = doubleQuote :: (name ++ doubleQuote :: rest)

/-- A line that begins with a quote begins with a name between quotes. -/
def ClosesQuotes (line : List Char) : Prop :=
  line.head? = some doubleQuote → ∃ name, Quotes line name

/-- What stands behind a quote at the start of a line, up to the next quote. -/
def quotedAtStart? (line : List Char) : Option (List Char) :=
  if line.head? = some doubleQuote then some (line.tail.takeWhile (· != doubleQuote)) else none

/-- The field of a line, going by the line directly above it. -/
def fieldUnder? (above line : List Char) : Option (List Char) :=
  if allBlank above then quotedAtStart? line else none

/-- The field of the line with a number, counted from zero. The first line has no line above it, and
the second one is under a line that no end of a line stands before. -/
def fieldOfLine? (lines : List (List Char)) : Nat → Option (List Char)
  | i + 2 => do fieldUnder? (← lines[i + 1]?) (← lines[i + 2]?)
  | _ => none

/-- A name up to the next quote is all that is taken from the front, and the rest is behind the
quote. -/
theorem takeWhile_name {name : List Char} (h : doubleQuote ∉ name) (rest : List Char) :
    (name ++ doubleQuote :: rest).takeWhile (· != doubleQuote) = name ∧
      (name ++ doubleQuote :: rest).dropWhile (· != doubleQuote) = doubleQuote :: rest := by
  have hname : ∀ c ∈ name, (c != doubleQuote) = true := by
    intro c hc
    rw [bne_iff_ne]
    rintro rfl
    exact h hc
  constructor
  · rw [List.takeWhile_append_of_pos hname, List.takeWhile_cons_of_neg (by simp), List.append_nil]
  · rw [List.dropWhile_append_of_pos hname, List.dropWhile_cons_of_neg (by simp)]

/-- A name between quotes is what stands at the start of its line. -/
theorem quotedAtStart?_of_quotes {line name : List Char} (h : Quotes line name) :
    quotedAtStart? line = some name := by
  obtain ⟨-, hname, rest, rfl⟩ := h
  rw [quotedAtStart?, if_pos List.head?_cons, List.tail_cons, (takeWhile_name hname rest).1]

/-- Among lines that close what they open, just the names between quotes stand at the start of a
line. -/
theorem quotedAtStart?_eq_some_iff {line name : List Char} (h : ClosesQuotes line) :
    quotedAtStart? line = some name ↔ Quotes line name := by
  refine ⟨fun hat => ?_, quotedAtStart?_of_quotes⟩
  have hquote : line.head? = some doubleQuote := by
    by_contra hne
    rw [quotedAtStart?, if_neg hne] at hat
    cases hat
  obtain ⟨other, hother⟩ := h hquote
  have heq : some other = some name := (quotedAtStart?_of_quotes hother).symm.trans hat
  rwa [← Option.some.inj heq]

/-- A line of a help text lists a field: it has the number two or a higher one, counted from zero,
the line directly above it is blank, and it begins with the name between quotes. -/
structure ListsField (lines : List (List Char)) (i : Nat) (name : List Char) : Prop where
  /-- Two lines or more are above. -/
  two_le : 2 ≤ i
  /-- The line directly above is blank, or empty. -/
  under : ∃ above, lines[i - 1]? = some above ∧ allBlank above = true
  /-- The line begins with the name between quotes. -/
  quotes : ∃ line, lines[i]? = some line ∧ Quotes line name

/-- The field of a line is the one that the line lists. -/
theorem fieldOfLine?_eq_some_iff {lines : List (List Char)} (h : ∀ line ∈ lines, ClosesQuotes line)
    (i : Nat) (name : List Char) :
    fieldOfLine? lines i = some name ↔ ListsField lines i name := by
  constructor
  · intro hfield
    match i, hfield with
    | i + 2, hfield =>
      obtain ⟨above, habove, hfield⟩ := Option.bind_eq_some_iff.mp hfield
      obtain ⟨line, hline, hfield⟩ := Option.bind_eq_some_iff.mp hfield
      obtain ⟨hblank, hat⟩ := Option.ite_none_right_eq_some.mp hfield
      have hclose : ClosesQuotes line := h line (List.mem_of_getElem? hline)
      exact ⟨by omega, ⟨above, habove, hblank⟩,
        ⟨line, hline, (quotedAtStart?_eq_some_iff hclose).mp hat⟩⟩
  · rintro ⟨htwo, ⟨above, habove, hblank⟩, ⟨line, hline, hquotes⟩⟩
    obtain ⟨j, rfl⟩ : ∃ j, i = j + 2 := ⟨i - 2, by omega⟩
    have hfield : fieldUnder? above line = some name := by
      rw [fieldUnder?, if_pos hblank, quotedAtStart?_of_quotes hquotes]
    rw [fieldOfLine?, hline, show lines[j + 1]? = some above from habove]
    exact hfield

/-- A line closes what it opens if there is a second quote in it, and not right behind the first. -/
theorem closesQuotes_iff {line : List Char} : ClosesQuotes line ↔
    (line.head? = some doubleQuote →
      doubleQuote ∈ line.tail ∧ line.tail.head? ≠ some doubleQuote) := by
  refine forall_congr' fun hhead => ?_
  obtain ⟨tail, rfl⟩ := List.head?_eq_some_iff.mp hhead
  rw [List.tail_cons]
  constructor
  · rintro ⟨name, hne, hname, rest, hline⟩
    obtain ⟨c, name, rfl⟩ := List.exists_cons_of_ne_nil hne
    rw [List.cons.inj hline |>.2]
    refine ⟨List.mem_append_right _ List.mem_cons_self, fun hc => hname ?_⟩
    rw [← Option.some.inj hc]
    exact List.mem_cons_self
  · rintro ⟨hmem, hne⟩
    obtain ⟨name, rest, rfl, hname⟩ := List.eq_append_cons_of_mem hmem
    refine ⟨name, ?_, hname, rest, rfl⟩
    rintro rfl
    exact hne rfl

instance : DecidablePred ClosesQuotes := fun _ => decidable_of_iff _ closesQuotes_iff.symm

/-- A line that begins with a quote is not blank. -/
theorem not_allBlank_of_quote {line : List Char} (h : line.head? = some doubleQuote) :
    allBlank line = false := by
  obtain ⟨rest, rfl⟩ := List.head?_eq_some_iff.mp h
  rfl

/-- A text is a single line, or a line, its end and the lines behind it. -/
theorem lines_cases (s : List Char) :
    ('\n' ∉ s ∧ pieces '\n' s = [s]) ∨
      ∃ line rest, '\n' ∉ line ∧ s = line ++ '\n' :: rest ∧
        pieces '\n' s = line :: pieces '\n' rest := by
  by_cases hs : '\n' ∈ s
  · obtain ⟨line, rest, rfl, hline⟩ := List.eq_append_cons_of_mem hs
    exact .inr ⟨line, rest, hline, rfl, Text.pieces_append_cons hline rest⟩
  · exact .inl ⟨hs, Text.pieces_of_notMem hs⟩

/-! ## Reading by the ends of lines -/

/-- Characters that end no line are passed by. -/
theorem fieldsOfHelp_skip {line : List Char} (h : '\n' ∉ line) (s : List Char) :
    fieldsOfHelp (line ++ s) = fieldsOfHelp s := by
  induction line with
  | nil => rfl
  | cons c line ih =>
    rw [List.mem_cons, not_or] at h
    have hc : c ≠ '\n' := fun hc => h.1 hc.symm
    rw [List.cons_append, fieldsOfHelp, if_neg hc, ih h.2]

/-- A text without an end of a line lists nothing. -/
theorem fieldsOfHelp_of_notMem {s : List Char} (h : '\n' ∉ s) : fieldsOfHelp s = [] := by
  have hskip := fieldsOfHelp_skip h []
  rw [List.append_nil] at hskip
  rw [hskip, fieldsOfHelp]

/-- What the end of a line is followed by decides whether a field is taken there. -/
theorem fieldsOfHelp_cons_newline (s : List Char) :
    fieldsOfHelp ('\n' :: s) = match fieldAfterLine? s with
      | some (name, rest) => name :: fieldsOfHelp rest
      | none => fieldsOfHelp s := by
  rw [fieldsOfHelp, if_pos rfl]
  split <;> next h => rw [h]

/-- Behind the end of a line stands no field if no other line ends within the blanks there. -/
theorem fieldAfterLine?_of_notMem {s : List Char} (h : '\n' ∉ s.takeWhile isBlank) :
    fieldAfterLine? s = none :=
  if_neg fun hlast => h (List.mem_of_getLast? hlast)

/-- A line that is not blank is passed by as a whole. -/
theorem fieldsOfHelp_of_notBlank {line : List Char} (hnew : '\n' ∉ line)
    (h : allBlank line = false) (s : List Char) :
    fieldsOfHelp ('\n' :: (line ++ s)) = fieldsOfHelp s := by
  have hstop : ¬ (line.takeWhile isBlank).length = line.length := by
    intro hlen
    have hall : line.takeWhile isBlank = line :=
      (List.takeWhile_prefix isBlank).eq_of_length hlen
    rw [allBlank, ← hall, List.all_takeWhile] at h
    cases h
  have hblanks : '\n' ∉ (line ++ s).takeWhile isBlank := by
    rw [List.takeWhile_append, if_neg hstop]
    exact fun hmem => hnew ((List.takeWhile_prefix isBlank).subset hmem)
  rw [fieldsOfHelp_cons_newline, fieldAfterLine?_of_notMem hblanks]
  exact fieldsOfHelp_skip hnew s

/-- A blank line and its end are run over together with the blanks behind them. -/
theorem blanks_of_blankLine {line : List Char} (h : allBlank line = true) (s : List Char) :
    (line ++ '\n' :: s).takeWhile isBlank = line ++ '\n' :: s.takeWhile isBlank ∧
      (line ++ '\n' :: s).dropWhile isBlank = s.dropWhile isBlank := by
  have hline : ∀ c ∈ line, isBlank c = true := List.all_eq_true.mp h
  constructor
  · rw [List.takeWhile_append_of_pos hline, List.takeWhile_cons_of_pos rfl]
  · rw [List.dropWhile_append_of_pos hline, List.dropWhile_cons_of_pos rfl]

/-- Without blanks behind a blank line, a field there begins with a quote at once. -/
theorem fieldAfterLine?_blankLine {line s : List Char} (h : allBlank line = true)
    (hs : s.takeWhile isBlank = []) : fieldAfterLine? (line ++ '\n' :: s) = quotedName? s := by
  obtain ⟨htake, hdrop⟩ := blanks_of_blankLine h s
  have hfront : s.dropWhile isBlank = s := by
    have hcut := List.takeWhile_append_dropWhile (p := isBlank) (l := s)
    rwa [hs, List.nil_append] at hcut
  rw [fieldAfterLine?, htake, hdrop, hs, hfront, if_pos List.getLast?_concat]

/-- With blanks behind a blank line, a field there is one behind the end of the blank line. -/
theorem fieldAfterLine?_blanks {line : List Char} (h : allBlank line = true) {c : Char}
    (hc : isBlank c = true) (s : List Char) :
    fieldAfterLine? (line ++ '\n' :: c :: s) = fieldAfterLine? (c :: s) := by
  obtain ⟨htake, hdrop⟩ := blanks_of_blankLine h (c :: s)
  have hlast : (line ++ '\n' :: (c :: s).takeWhile isBlank).getLast? =
      ((c :: s).takeWhile isBlank).getLast? := by
    rw [List.takeWhile_cons_of_pos hc, List.getLast?_append, List.getLast?_cons_cons,
      List.getLast?_cons, Option.some_or]
  unfold fieldAfterLine?
  rw [htake, hdrop, hlast]

/-- If no quote stands right behind a blank line, the fields are those that are found from its end
on. -/
theorem fieldsOfHelp_blankLine {line s : List Char} (hnew : '\n' ∉ line)
    (h : allBlank line = true) (hs : s.head? ≠ some doubleQuote) :
    fieldsOfHelp ('\n' :: (line ++ '\n' :: s)) = fieldsOfHelp ('\n' :: s) := by
  have hnone (hread : fieldAfterLine? (line ++ '\n' :: s) = none) :
      fieldsOfHelp ('\n' :: (line ++ '\n' :: s)) = fieldsOfHelp ('\n' :: s) := by
    rw [fieldsOfHelp_cons_newline, hread]
    exact fieldsOfHelp_skip hnew _
  cases s with
  | nil => exact hnone (fieldAfterLine?_blankLine h rfl)
  | cons c s =>
    cases hc : isBlank c with
    | false =>
      have hquote : c ≠ doubleQuote := fun hquote => hs (congrArg some hquote)
      have hfront : (c :: s).takeWhile isBlank = [] :=
        List.takeWhile_cons_of_neg (by simp [hc])
      refine hnone ?_
      rw [fieldAfterLine?_blankLine h hfront, quotedName?, if_neg hquote]
    | true =>
      -- Either both take the field behind the blanks, or both go on at the end of the blank line.
      rw [fieldsOfHelp_cons_newline, fieldAfterLine?_blanks h hc, fieldsOfHelp_skip hnew,
        fieldsOfHelp_cons_newline]
      cases fieldAfterLine? (c :: s) <;> rfl

/-- The name that a line begins with is read off the text that the line begins. -/
theorem quotedName?_of_quotes {line name : List Char} (h : Quotes line name) :
    ∃ rest, line = doubleQuote :: (name ++ doubleQuote :: rest) ∧
      ∀ s, quotedName? (line ++ s) = some (name, rest ++ s) := by
  obtain ⟨hne, hname, rest, rfl⟩ := h
  refine ⟨rest, rfl, fun s => ?_⟩
  obtain ⟨htake, hdrop⟩ := takeWhile_name hname (rest ++ s)
  have hempty : name.isEmpty = false := by
    rwa [Bool.eq_false_iff, ne_eq, List.isEmpty_iff]
  rw [List.cons_append, List.append_assoc, List.cons_append, quotedName?, if_pos rfl]
  simp only [htake, hdrop, hempty, Bool.false_eq_true, if_false]

/-- A line with a name between quotes, right under a blank line, gives the name, and is passed by
behind it. -/
theorem fieldsOfHelp_entry {above line name : List Char} (habove : allBlank above = true)
    (hnew : '\n' ∉ line) (hq : Quotes line name) (s : List Char) :
    fieldsOfHelp ('\n' :: (above ++ '\n' :: (line ++ s))) = name :: fieldsOfHelp s := by
  obtain ⟨rest, hline, hread⟩ := quotedName?_of_quotes hq
  have hfront : (line ++ s).takeWhile isBlank = [] := by
    rw [hline, List.cons_append]
    rfl
  have hrest : '\n' ∉ rest := by
    intro hmem
    rw [hline] at hnew
    exact hnew (List.mem_cons_of_mem _ (List.mem_append_right _ (List.mem_cons_of_mem _ hmem)))
  rw [fieldsOfHelp_cons_newline, fieldAfterLine?_blankLine habove hfront, hread]
  exact congrArg (name :: ·) (fieldsOfHelp_skip hrest s)

/-! ## Reading by lines -/

/-- The fields of lines from top to bottom, each going by the line above it. -/
def fieldsBelow : List (List Char) → List (List Char)
  | above :: line :: rest => (fieldUnder? above line).toList ++ fieldsBelow (line :: rest)
  | _ => []

/-- A line that is no field adds nothing. -/
theorem fieldsBelow_of_none {above line : List Char} (h : fieldUnder? above line = none)
    (rest : List (List Char)) :
    fieldsBelow (above :: line :: rest) = fieldsBelow (line :: rest) := by
  rw [fieldsBelow, h, Option.toList_none, List.nil_append]

/-- A text begins with its first line, and it begins with a quote exactly if that line does. -/
theorem exists_firstLine (s : List Char) : ∃ line t lines, '\n' ∉ line ∧ s = line ++ t ∧
    pieces '\n' s = line :: lines ∧
    (s.head? = some doubleQuote ↔ line.head? = some doubleQuote) := by
  obtain ⟨hs, hone⟩ | ⟨line, rest, hline, rfl, hlines⟩ := lines_cases s
  · exact ⟨s, [], [], hs, s.append_nil.symm, hone, .rfl⟩
  · refine ⟨line, '\n' :: rest, pieces '\n' rest, hline, rfl, hlines, ?_⟩
    cases line with
    | nil => exact iff_of_false (by simp [doubleQuote]) (by simp)
    | cons c line => exact .rfl

/-- Behind the end of a line, the fields are those that are read line by line. -/
theorem fieldsOfHelp_newline (s : List Char) (h : ∀ line ∈ pieces '\n' s, ClosesQuotes line) :
    fieldsOfHelp ('\n' :: s) = fieldsBelow (pieces '\n' s) := by
  -- The induction is on the length, since a field may begin only lines further on; at each step the
  -- first line is taken off, and what is behind its end is read in the same way.
  induction hn : s.length using Nat.strong_induction_on generalizing s with
  | _ n ih =>
  obtain ⟨hs, hone⟩ | ⟨above, r, habove, rfl, hlines⟩ := lines_cases s
  · have hblanks : '\n' ∉ s.takeWhile isBlank := fun hmem =>
      hs ((List.takeWhile_prefix isBlank).subset hmem)
    rw [hone, fieldsOfHelp_cons_newline, fieldAfterLine?_of_notMem hblanks]
    exact fieldsOfHelp_of_notMem hs
  rw [hlines] at h
  obtain ⟨-, hclose⟩ := List.forall_mem_cons.mp h
  have hrest : fieldsOfHelp ('\n' :: r) = fieldsBelow (pieces '\n' r) := by
    refine ih r.length ?_ r hclose rfl
    rw [← hn, List.length_append, List.length_cons]
    omega
  obtain ⟨line, t, lines, hline, rfl, hfirst, hhead⟩ := exists_firstLine r
  rw [hlines, hfirst]
  rw [hfirst] at hrest hclose
  cases hblank : allBlank above with
  | false =>
    have hnone : fieldUnder? above line = none := by
      rw [fieldUnder?, hblank]
      rfl
    rw [fieldsOfHelp_of_notBlank habove hblank, fieldsBelow_of_none hnone, hrest]
  | true =>
    by_cases hquote : line.head? = some doubleQuote
    · obtain ⟨name, hname⟩ := hclose line List.mem_cons_self hquote
      have hfield : fieldUnder? above line = some name := by
        rw [fieldUnder?, if_pos hblank, quotedAtStart?_of_quotes hname]
      -- Behind the name the line is passed by, just as it is when it is read from its start.
      have hpast : fieldsOfHelp t = fieldsBelow (line :: lines) := by
        rw [← fieldsOfHelp_of_notBlank hline (not_allBlank_of_quote hquote) t, hrest]
      rw [fieldsOfHelp_entry hblank hline hname, hpast, fieldsBelow, hfield]
      rfl
    · have hnone : fieldUnder? above line = none := by
        rw [fieldUnder?, if_pos hblank, quotedAtStart?, if_neg hquote]
      have hstart : (line ++ t).head? ≠ some doubleQuote := fun hs => hquote (hhead.mp hs)
      rw [fieldsOfHelp_blankLine habove hblank hstart, fieldsBelow_of_none hnone, hrest]

/-! ## Counting lines -/

/-- The first of a row of numbers is looked at before the others. -/
theorem filterMap_range_succ {α : Type} (f : Nat → Option α) (n : Nat) :
    (List.range (n + 1)).filterMap f =
      (f 0).toList ++ (List.range n).filterMap (fun i => f (i + 1)) := by
  rw [List.range_succ_eq_map, List.filterMap_cons, List.filterMap_map]
  cases f 0 <;> rfl

/-- Read line by line, the fields are those of the lines with their numbers. The line before them
has the number zero. -/
theorem fieldsBelow_eq (first : List Char) (lines : List (List Char)) :
    fieldsBelow lines =
      (List.range (lines.length + 1)).filterMap (fieldOfLine? (first :: lines)) := by
  induction lines generalizing first with
  | nil => rfl
  | cons above lines ih =>
    cases lines with
    | nil => rfl
    | cons line rest =>
      -- Three numbers are those of lines before the rest, and two once the first line is left out.
      have htwo : fieldsBelow (line :: rest) = (List.range rest.length).filterMap
          fun i => fieldOfLine? (above :: line :: rest) (i + 2) := by
        rw [ih above, List.length_cons, filterMap_range_succ, filterMap_range_succ]
        rfl
      rw [fieldsBelow, htwo, List.length_cons, List.length_cons, filterMap_range_succ,
        filterMap_range_succ, filterMap_range_succ]
      rfl

/-- The fields of a help text are those of its lines with their numbers. -/
theorem fieldsOfHelp_eq (s : List Char) (h : ∀ line ∈ pieces '\n' s, ClosesQuotes line) :
    fieldsOfHelp s =
      (List.range (pieces '\n' s).length).filterMap (fieldOfLine? (pieces '\n' s)) := by
  obtain ⟨hs, hone⟩ | ⟨first, rest, hfirst, rfl, hlines⟩ := lines_cases s
  · rw [fieldsOfHelp_of_notMem hs, hone]
    rfl
  · rw [hlines] at h
    obtain ⟨-, hclose⟩ := List.forall_mem_cons.mp h
    rw [fieldsOfHelp_skip hfirst, fieldsOfHelp_newline rest hclose, hlines, List.length_cons,
      fieldsBelow_eq first]

/-- If every line that begins with a quote closes it behind a name, then a help text lists the
fields of its lines, from the first line to the last, each as often as it stands there; and the
field of a line is the name that the line begins with between quotes, under a blank line that is not
the first of all. -/
theorem listedFields_eq (help : String)
    (h : ∀ line ∈ pieces '\n' help.toList, ClosesQuotes line) :
    let lines := pieces '\n' help.toList
    listedFields help =
        ((List.range lines.length).filterMap (fieldOfLine? lines)).map String.ofList ∧
      ∀ i name, fieldOfLine? lines i = some name ↔ ListsField lines i name :=
  ⟨congrArg (List.map String.ofList) (fieldsOfHelp_eq help.toList h), fieldOfLine?_eq_some_iff h⟩

/-- Of a text with two sections, lines that end in a return, an indented quote and quotes within
lines, the fields are those under blank lines, the first one twice. -/
theorem listedFields_twoSections :
    let help := "\n\"none\"\n\n\"timestamp\"\nThe \"time\" of the query.\n \"a\"\r\n\r\n" ++
      "\"pci.bus\" or \"bus\"\n\"b\"\n\n \n\"timestamp\""
    (∀ line ∈ pieces '\n' help.toList, ClosesQuotes line) ∧
      listedFields help = ["timestamp", "pci.bus", "timestamp"] := by
  intro help
  have hclose : ∀ line ∈ pieces '\n' help.toList, ClosesQuotes line := by decide +kernel
  refine ⟨hclose, ?_⟩
  rw [(listedFields_eq help hclose).1]
  decide +kernel

end GpuMetrics.Field
