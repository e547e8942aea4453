import GpuMetrics.Proofs.FixedNames
import GpuMetrics.Proofs.SnakeCase

/-!
# The names of plain headers

A plain header is a word of letters, digits, points and underscores, perhaps with a unit behind it
in brackets, which is a percent sign or such a word as well. It gives a name of small letters,
digits and underscores in every case: a unit that is known becomes an ending (`naming_of_isUnit`),
and any other one stays in the name, without its brackets (`naming_of_not_isUnit`). With a legal
stem in front the name is legal, and only a unit that is not known is worth a warning
(`named_of_header`).
-/

namespace GpuMetrics

namespace Metric

/-! ## Characters -/

/-- A character of a plain header: a letter or digit of ASCII, a point or an underscore. -/
def IsHeaderChar (c : Char) : Prop :=
  ('a' ≤ c ∧ c ≤ 'z') ∨ ('A' ≤ c ∧ c ≤ 'Z') ∨ ('0' ≤ c ∧ c ≤ '9') ∨ c = '.' ∨ c = '_'

/-- A character of its name: a small letter or digit of ASCII or an underscore. -/
def IsBaseChar (c : Char) : Prop := ('a' ≤ c ∧ c ≤ 'z') ∨ ('0' ≤ c ∧ c ≤ '9') ∨ c = '_'

instance (c : Char) : Decidable (IsHeaderChar c) := inferInstanceAs (Decidable (_ ∨ _))

instance (c : Char) : Decidable (IsBaseChar c) := inferInstanceAs (Decidable (_ ∨ _))

/-- The character that stands in a name for one of a header: points become underscores. -/
def unpointed (c : Char) : Char := if c = '.' then '_' else c

/-- The characters of plain headers are of ASCII. -/
theorem IsHeaderChar.lt {c : Char} (h : IsHeaderChar c) : c.toNat < 128 := by
  unfold IsHeaderChar at h
  simp only [le_iff_toNat_le] at h
  have hz : 'z'.toNat = 122 := rfl
  have hZ : 'Z'.toNat = 90 := rfl
  have h9 : '9'.toNat = 57 := rfl
  rcases h with h | h | h | rfl | rfl
  · omega
  · omega
  · omega
  · decide
  · decide

/-- What becomes of them in a name. -/
theorem IsHeaderChar.unpointed_lt {c : Char} (h : IsHeaderChar c) : (unpointed c).toNat < 128 := by
  unfold unpointed
  split
  · decide
  · exact h.lt

/-- Points apart, they are made small. -/
theorem IsHeaderChar.isBaseChar {c : Char} (h : IsHeaderChar c) :
    IsBaseChar (unpointed c).toLower := by
  have hall := Text.of_forall_ascii
    (p := fun c => decide (IsHeaderChar c → IsBaseChar (unpointed c).toLower))
    (by decide +kernel) h.lt
  exact of_decide_eq_true hall h

/-- The characters of names are none that a name should not have. -/
theorem IsBaseChar.isStray {c : Char} (h : IsBaseChar c) : isStray c = false := by
  have hne {d : Char} (hd : ¬ IsBaseChar d) : c ≠ d := fun hcd => hd (hcd ▸ h)
  simp [Metric.isStray, hne (d := ' ') (by decide), hne (d := '[') (by decide),
    hne (d := ']') (by decide)]

/-- They may stand in a legal name behind its first character. -/
theorem IsBaseChar.isTail {c : Char} (h : IsBaseChar c) : IsTail c := by
  rcases h with h | h | h
  · exact .inl (.inl h)
  · exact .inr h
  · exact .inl (.inr (.inr (.inl h)))

/-- The parted characters of a plain text are those of names. -/
theorem isBaseChar_of_parted {s t : List Char} (h : ∀ c ∈ s, IsHeaderChar c)
    (ht : ∀ d ∈ t, d ∈ s.map unpointed ∨ d = '_') : ∀ c ∈ t.map Char.toLower, IsBaseChar c := by
  intro c hc
  obtain ⟨d, hd, rfl⟩ := List.mem_map.mp hc
  rcases ht d hd with hd | rfl
  · obtain ⟨e, he, rfl⟩ := List.mem_map.mp hd
    exact (h e he).isBaseChar
  · decide

/-- A plain text is parted and made small character by character. -/
theorem snakeCase_unpointed {s : List Char} (h : ∀ c ∈ s, IsHeaderChar c) :
    snakeCase (s.map unpointed) = (parted (s.map unpointed)).map Char.toLower := by
  refine snakeCase_eq fun c hc => ?_
  obtain ⟨d, hd, rfl⟩ := List.mem_map.mp hc
  exact (h d hd).unpointed_lt

/-! ## Units -/

/-- The units of the tool: how each is written, the ending that it gives to a name, and its size in
base units. -/
inductive IsUnit : String → String → Float → Prop
  | watts : IsUnit "W" "_watts" 1.0
  | megahertz : IsUnit "MHz" "_clock_hz" 1000000.0
  | mebibytes : IsUnit "MiB" "_bytes" 1048576.0
  | percent : IsUnit "%" "_ratio" 0.01
  | microseconds : IsUnit "us" "_seconds" 0.000001

/-- A unit between brackets behind a space. -/
def mark (u : String) : String := " [" ++ u ++ "]"

/-- A header with a unit. -/
def withUnit (b u : String) : String := b ++ mark u

/-- The characters of a mark: a space, and no space behind it if the unit has none. -/
theorem toList_mark (u : String) : (mark u).toList = ' ' :: '[' :: (u.toList ++ [']']) := by
  simp [mark, String.toList_append]

/-- The characters of a header with a unit. -/
theorem toList_withUnit (b u : String) :
    (withUnit b u).toList = b.toList ++ ' ' :: '[' :: (u.toList ++ [']']) := by
  rw [withUnit, String.toList_append, toList_mark]

/-- The measures are the units of the tool with their marks. -/
theorem isUnit_of_mem {m : Measure} (h : m ∈ measures) :
    ∃ u, m.mark = mark u ∧ IsUnit u m.ending m.multiplier := by
  simp only [measures, List.mem_cons, List.not_mem_nil, or_false] at h
  rcases h with rfl | rfl | rfl | rfl | rfl
  · exact ⟨"W", rfl, .watts⟩
  · exact ⟨"MHz", rfl, .megahertz⟩
  · exact ⟨"MiB", rfl, .mebibytes⟩
  · exact ⟨"%", rfl, .percent⟩
  · exact ⟨"us", rfl, .microseconds⟩

/-- No two of them have one mark. -/
theorem find?_measures {u ending : String} {factor : Float} (h : IsUnit u ending factor) :
    measures.find? (fun m => m.mark = mark u) = some ⟨mark u, ending, factor⟩ := by
  cases h <;> rfl

/-- A header without spaces in its word and in its unit ends with a mark exactly if it is that of
the unit. -/
theorem endsWith_mark_iff {b u v : String} (hb : ' ' ∉ b.toList) (hu : ' ' ∉ u.toList) :
    Text.endsWith (mark v) (withUnit b u) = true ↔ mark v = mark u := by
  rw [Text.endsWith, List.isSuffixOf_iff_suffix, toList_withUnit]
  constructor
  · rintro ⟨front, hfront⟩
    have hrest : ' ' ∉ '[' :: (u.toList ++ [']']) := by simp [hu]
    rw [toList_mark, eq_comm, List.append_cons_inj_of_notMem hb hrest] at hfront
    apply String.toList_injective
    rw [toList_mark, toList_mark, hfront.2.2]
  · intro h
    rw [← toList_withUnit, withUnit, h, String.toList_append]
    exact List.suffix_append _ _

/-- The measure of a header with a unit is that with the mark of the unit. -/
theorem measure?_withUnit {b u : String} (hb : ' ' ∉ b.toList) (hu : ' ' ∉ u.toList) :
    measure? (withUnit b u) = measures.find? fun m => m.mark = mark u := by
  rw [measure?, ← List.head?_filter, ← List.head?_filter]
  refine congrArg List.head? (List.filter_congr fun m hm => ?_)
  obtain ⟨v, hv, -⟩ := isUnit_of_mem hm
  rw [hv, Bool.eq_iff_iff, endsWith_mark_iff hb hu, decide_eq_true_iff]

/-- A header with a unit of the tool has its measure. -/
theorem measure?_of_isUnit {b u ending : String} {factor : Float} (hb : ' ' ∉ b.toList)
    (hu : ' ' ∉ u.toList) (h : IsUnit u ending factor) :
    measure? (withUnit b u) = some ⟨mark u, ending, factor⟩ := by
  rw [measure?_withUnit hb hu, find?_measures h]

/-- A header with any other unit has none. -/
theorem measure?_of_not_isUnit {b u : String} (hb : ' ' ∉ b.toList) (hu : ' ' ∉ u.toList)
    (h : ∀ ending factor, ¬ IsUnit u ending factor) : measure? (withUnit b u) = none := by
  rw [measure?_withUnit hb hu, List.find?_eq_none]
  intro m hm hmark
  obtain ⟨v, hv, hunit⟩ := isUnit_of_mem hm
  rw [hv, decide_eq_true_iff] at hmark
  have hlist := congrArg String.toList hmark
  rw [toList_mark, toList_mark, List.cons.injEq, List.cons.injEq, List.append_left_inj,
    String.toList_inj] at hlist
  exact h _ _ (hlist.2.2 ▸ hunit)

/-- A word has no measure. -/
theorem measure?_of_word {b : String} (hb : ' ' ∉ b.toList) : measure? b = none := by
  rw [measure?, List.find?_eq_none]
  intro m hm hmark
  obtain ⟨v, hv, -⟩ := isUnit_of_mem hm
  rw [Text.endsWith, List.isSuffixOf_iff_suffix, hv, toList_mark] at hmark
  exact hb (hmark.subset List.mem_cons_self)

/-! ## Cleaning -/

/-- A stretch without the first character of a pattern is passed by. -/
theorem replacedFrom_append {p : Char} {pat new s : List Char} (h : p ∉ s) (r : List Char) :
    Text.replacedFrom (p :: pat) new 0 (s ++ r) = s ++ Text.replacedFrom (p :: pat) new 0 r := by
  induction s with
  | nil => rfl
  | cons c s ih =>
    rw [List.mem_cons, not_or] at h
    have hc : (p == c) = false := beq_eq_false_iff_ne.mpr h.1
    rw [List.cons_append, Text.replacedFrom, List.isPrefixOf, hc]
    simp only [Bool.false_and, Bool.false_eq_true, if_false, List.cons_append, ih h.2]

/-- Cleaning turns the space and the bracket in front of a unit into an underscore, and drops the
bracket behind it. -/
theorem clean_append {x y : List Char} (hspace : ' ' ∉ x) (hbracket : ']' ∉ x) (hy : ' ' ∉ y) :
    clean (x ++ ' ' :: '[' :: y) = x ++ '_' :: y.filter (· != ']') := by
  have hrest : Text.replacedFrom [' ', '['] ['_'] 0 y = y := by
    have h : Text.replacedFrom [' ', '['] ['_'] 0 (y ++ []) =
        y ++ Text.replacedFrom [' ', '['] ['_'] 0 [] := replacedFrom_append hy []
    simpa [Text.replacedFrom] using h
  have hx : x.filter (· != ']') = x := by
    rw [List.filter_eq_self]
    intro c hc
    exact bne_iff_ne.mpr fun h => hbracket (h ▸ hc)
  calc clean (x ++ ' ' :: '[' :: y) = (x ++ '_' :: y).filter (· != ']') := by
        rw [clean, Text.replaced, replacedFrom_append hspace]
        simp [Text.replacedFrom, hrest]
    _ = x ++ '_' :: y.filter (· != ']') := by
        rw [List.filter_append, hx]
        rfl

/-! ## Names without a stem -/

/-- A header without strange characters gives its parted and small characters, and nothing has to be
cleaned. -/
theorem ofHeader_of_plain {header : String} (h : ∀ c ∈ withEnding header, IsHeaderChar c) :
    (ofHeader header).base =
        String.ofList ((parted ((withEnding header).map unpointed)).map Char.toLower) ∧
      (ofHeader header).cleaned = false := by
  have hname := snakeCase_unpointed h
  have hcleaned : (snakeCase ((withEnding header).map unpointed)).any isStray = false := by
    rw [hname, List.any_eq_false]
    intro c hc
    rw [(isBaseChar_of_parted h (fun d hd => mem_parted hd) c hc).isStray]
    exact Bool.false_ne_true
  refine ⟨?_, hcleaned⟩
  show String.ofList (if (snakeCase ((withEnding header).map unpointed)).any isStray then _ else
    snakeCase ((withEnding header).map unpointed)) = _
  rw [hcleaned, if_neg Bool.false_ne_true, hname]

/-- A word with brackets behind it, parted and made small, has the brackets where they were. -/
theorem snakeCase_bracketed {b u : List Char} (hb : ∀ c ∈ b, IsHeaderChar c)
    (hu : ∀ c ∈ u, IsHeaderChar c) :
    ∃ x y, snakeCase ((b ++ ' ' :: '[' :: (u ++ [']'])).map unpointed) = x ++ ' ' :: '[' :: y ∧
      (∀ c ∈ x, IsBaseChar c) ∧ ∀ c ∈ y, IsBaseChar c ∨ c = ']' := by
  have hunpointed : (b ++ ' ' :: '[' :: (u ++ [']'])).map unpointed =
      b.map unpointed ++ ' ' :: '[' :: (u.map unpointed ++ [']']) := by
    rw [List.map_append, List.map_cons, List.map_cons, List.map_append]
    rfl
  have hplain {s : List Char} (h : ∀ c ∈ s, IsHeaderChar c) :
      ∀ c ∈ s.map unpointed, c.toNat < 128 := by
    intro c hc
    obtain ⟨d, hd, rfl⟩ := List.mem_map.mp hc
    exact (h d hd).unpointed_lt
  have hascii : ∀ c ∈ b.map unpointed ++ ' ' :: '[' :: (u.map unpointed ++ [']']),
      c.toNat < 128 := by
    simp only [List.mem_append, List.mem_cons, List.not_mem_nil, or_false]
    rintro c (hc | rfl | rfl | hc | rfl)
    · exact hplain hb c hc
    · decide
    · decide
    · exact hplain hu c hc
    · decide
  obtain ⟨t, ht, hmem⟩ := exists_parted_cons '[' (u.map unpointed ++ [']'])
  -- The space and the bracket are no letters, so the text is cut at both.
  have hparted : parted (b.map unpointed ++ ' ' :: '[' :: (u.map unpointed ++ [']'])) =
      parted (b.map unpointed) ++ ' ' :: '[' :: t := by
    rw [parted_append (by decide) (by decide), parted_cons_cons (by decide) (by decide) (by decide),
      ht]
  refine ⟨(parted (b.map unpointed)).map Char.toLower, t.map Char.toLower, ?_,
    isBaseChar_of_parted hb fun d hd => mem_parted hd, fun c hc => ?_⟩
  · rw [hunpointed, snakeCase_eq hascii, hparted, List.map_append, List.map_cons, List.map_cons]
    rfl
  · obtain ⟨d, hd, rfl⟩ := List.mem_map.mp hc
    have hone (h : d ∈ u.map unpointed ∨ d = '_') : IsBaseChar d.toLower :=
      isBaseChar_of_parted (t := [d]) hu (by simpa using h) _ (by simp)
    rcases hmem d hd with hd | hd
    · rcases List.mem_append.mp hd with hd | hd
      · exact .inl (hone (.inl hd))
      · rw [List.mem_singleton.mp hd]
        exact .inr rfl
    · exact .inl (hone (.inr hd))

/-- A header with a unit that is not known gives a name of plain characters, which had to be
cleaned. -/
theorem ofHeader_of_bracketed {header : String} {b u : List Char}
    (hheader : withEnding header = b ++ ' ' :: '[' :: (u ++ [']']))
    (hb : ∀ c ∈ b, IsHeaderChar c) (hu : ∀ c ∈ u, IsHeaderChar c) :
    (∀ c ∈ (ofHeader header).base.toList, IsBaseChar c) ∧ (ofHeader header).cleaned = true := by
  obtain ⟨x, y, hname, hx, hy⟩ := snakeCase_bracketed hb hu
  rw [← hheader] at hname
  have hcleaned : (snakeCase ((withEnding header).map unpointed)).any isStray = true := by
    rw [hname, List.any_eq_true]
    exact ⟨' ', by simp, rfl⟩
  have hbase : (ofHeader header).base = String.ofList (x ++ '_' :: y.filter (· != ']')) := by
    have hspace : ' ' ∉ x := fun h => absurd (hx ' ' h) (by decide)
    have hbracket : ']' ∉ x := fun h => absurd (hx ']' h) (by decide)
    have hrest : ' ' ∉ y := fun h => absurd (hy ' ' h) (by decide)
    show String.ofList (if (snakeCase ((withEnding header).map unpointed)).any isStray then
      clean (snakeCase ((withEnding header).map unpointed)) else _) = _
    rw [hcleaned, if_pos rfl, hname, clean_append hspace hbracket hrest]
  refine ⟨fun c hc => ?_, hcleaned⟩
  rw [hbase, String.toList_ofList] at hc
  rcases List.mem_append.mp hc with hc | hc
  · exact hx c hc
  · rcases List.mem_cons.mp hc with rfl | hc
    · decide
    · obtain ⟨hc, hne⟩ := List.mem_filter.mp hc
      exact (hy c hc).resolve_right (bne_iff_ne.mp hne)

/-! ## Names -/

/-- A word of a plain header. -/
def IsHeaderWord (s : String) : Prop := s ≠ "" ∧ ∀ c ∈ s.toList, IsHeaderChar c

/-- What becomes of a plain header: the name is the stem, an underscore, and a rest of small
letters, digits and underscores, and it is legal. -/
structure Named (stem header rest : String) : Prop where
  name : (Info.ofHeader stem header).name = stem ++ "_" ++ rest
  plain : ∀ c ∈ rest.toList, IsBaseChar c
  legal : LegalName (Info.ofHeader stem header).name

/-- A legal stem with plain characters behind it makes a legal name. -/
theorem named_of_base {stem header : String} (hstem : LegalName stem)
    (h : ∀ c ∈ (ofHeader header).base.toList, IsBaseChar c) :
    Named stem header (ofHeader header).base := by
  have hname : (Info.ofHeader stem header).name = stem ++ "_" ++ (ofHeader header).base := by
    have hne : stem ≠ "" := ne_empty_of_isPlain (legalName_iff.mp hstem)
    show qualified stem (ofHeader header).base = _
    rw [qualified, if_neg (by simpa [String.isEmpty_iff] using hne)]
  refine ⟨hname, h, ?_⟩
  obtain ⟨c, r, hcut, hc, hr⟩ := hstem
  refine ⟨c, r ++ '_' :: (ofHeader header).base.toList, ?_, hc, fun d hd => ?_⟩
  · rw [hname, String.toList_append, String.toList_append, hcut]
    simp
  · rcases List.mem_append.mp hd with hd | hd
    · exact hr d hd
    · rcases List.mem_cons.mp hd with rfl | hd
      · exact .inl (.inr (.inr (.inl rfl)))
      · exact (h d hd).isTail

/-- A word has no space in it. -/
theorem space_notMem {s : String} (h : ∀ c ∈ s.toList, IsHeaderChar c) : ' ' ∉ s.toList :=
  fun hmem => absurd (h ' ' hmem) (by decide)

/-- The ending of a unit begins with an underscore, and stays in a name as it is. -/
theorem IsUnit.ending_eq {u ending : String} {factor : Float} (h : IsUnit u ending factor) :
    ∃ e, ending.toList = '_' :: e ∧ (∀ c ∈ ending.toList, IsHeaderChar c) ∧
      ending.toList.map unpointed = ending.toList ∧ (∀ c ∈ ending.toList, isCapital c = false) ∧
      ending.toList.map Char.toLower = ending.toList := by
  cases h <;> exact ⟨_, rfl, Text.forall_of_all (by decide), by decide,
    Text.forall_of_all (by decide), by decide⟩

/-- Units have no spaces in them. -/
theorem IsUnit.space_notMem {u ending : String} {factor : Float} (h : IsUnit u ending factor) :
    ' ' ∉ u.toList := by
  cases h <;> decide

/-- A word gives a name without a unit. -/
theorem naming_of_word {b : String} (hb : ∀ c ∈ b.toList, IsHeaderChar c) :
    (∀ c ∈ (ofHeader b).base.toList, IsBaseChar c) ∧ (ofHeader b).multiplier = 1.0 ∧
      (ofHeader b).cleaned = false := by
  have hmeasure : measure? b = none := measure?_of_word (space_notMem hb)
  have hword : withEnding b = b.toList := by rw [withEnding, hmeasure]
  have hplain : ∀ c ∈ withEnding b, IsHeaderChar c := by rwa [hword]
  obtain ⟨hbase, hcleaned⟩ := ofHeader_of_plain hplain
  refine ⟨?_, ?_, hcleaned⟩
  · rw [hbase, String.toList_ofList, hword]
    exact isBaseChar_of_parted hb fun d hd => mem_parted hd
  · show ((measure? b).map (·.multiplier)).getD 1.0 = 1.0
    rw [hmeasure]
    rfl

/-- A word with a unit of the tool gives a name that ends with the ending of the unit. -/
theorem naming_of_isUnit {b u ending : String} {factor : Float}
    (hb : ∀ c ∈ b.toList, IsHeaderChar c) (h : IsUnit u ending factor) :
    (∀ c ∈ (ofHeader (withUnit b u)).base.toList, IsBaseChar c) ∧
      (∃ front, (ofHeader (withUnit b u)).base = front ++ ending) ∧
      (ofHeader (withUnit b u)).multiplier = factor ∧
      (ofHeader (withUnit b u)).cleaned = false := by
  have hmeasure := measure?_of_isUnit (space_notMem hb) h.space_notMem h
  have hfirst : firstWord (withUnit b u).toList = b.toList := by
    have hkept : ∀ c ∈ b.toList, (c != ' ') = true := fun c hc =>
      bne_iff_ne.mpr fun h => space_notMem hb (h ▸ hc)
    rw [firstWord, toList_withUnit, List.takeWhile_append_of_pos hkept,
      List.takeWhile_cons_of_neg (by simp), List.append_nil]
  have hword : withEnding (withUnit b u) = b.toList ++ ending.toList := by
    rw [withEnding, hmeasure]
    simp only [hfirst]
  obtain ⟨e, hending, hchars, hunpointed, hcapital, hlower⟩ := h.ending_eq
  have hplain : ∀ c ∈ withEnding (withUnit b u), IsHeaderChar c := by
    rw [hword]
    exact List.forall_mem_append.mpr ⟨hb, hchars⟩
  obtain ⟨hbase, hcleaned⟩ := ofHeader_of_plain hplain
  -- The ending begins with an underscore, so the word is parted as if it stood alone.
  have hparted : parted ((withEnding (withUnit b u)).map unpointed) =
      parted (b.toList.map unpointed) ++ ending.toList := by
    rw [hword, List.map_append, hunpointed, hending,
      parted_append (by decide) (by decide), ← hending, parted_of_no_capital hcapital]
  refine ⟨?_, ⟨String.ofList ((parted (b.toList.map unpointed)).map Char.toLower), ?_⟩, ?_,
    hcleaned⟩
  · rw [hbase, String.toList_ofList]
    exact isBaseChar_of_parted hplain fun d hd => mem_parted hd
  · apply String.toList_injective
    rw [hbase, hparted, List.map_append, hlower, String.toList_append, String.toList_ofList,
      String.toList_ofList]
  · show ((measure? (withUnit b u)).map (·.multiplier)).getD 1.0 = factor
    rw [hmeasure]
    rfl

/-- A word with any other unit gives a name without the brackets. -/
theorem naming_of_not_isUnit {b u : String} (hb : ∀ c ∈ b.toList, IsHeaderChar c)
    (hu : ∀ c ∈ u.toList, IsHeaderChar c) (h : ∀ ending factor, ¬ IsUnit u ending factor) :
    (∀ c ∈ (ofHeader (withUnit b u)).base.toList, IsBaseChar c) ∧
      (ofHeader (withUnit b u)).multiplier = 1.0 ∧
      (ofHeader (withUnit b u)).cleaned = true := by
  have hmeasure := measure?_of_not_isUnit (space_notMem hb) (space_notMem hu) h
  have hword : withEnding (withUnit b u) = b.toList ++ ' ' :: '[' :: (u.toList ++ [']']) := by
    rw [withEnding, hmeasure, ← toList_withUnit]
  obtain ⟨hbase, hcleaned⟩ := ofHeader_of_bracketed hword hb hu
  refine ⟨hbase, ?_, hcleaned⟩
  show ((measure? (withUnit b u)).map (·.multiplier)).getD 1.0 = 1.0
  rw [hmeasure]
  rfl

/-- A plain header gives a legal name behind every legal stem. A unit of the tool becomes an ending
and a factor; any other unit stays in the name, and one warning tells of it. -/
theorem named_of_header {stem b : String} (hstem : LegalName stem) (hb : IsHeaderWord b)
    (channel : String) :
    (∃ rest, Named stem b rest ∧ (Info.ofHeader stem b).multiplier = 1.0 ∧
        (ofHeader b).records channel b = []) ∧
      ∀ u, u = "%" ∨ IsHeaderWord u →
        (∀ ending factor, IsUnit u ending factor →
          ∃ front, Named stem (withUnit b u) (front ++ ending) ∧
            (Info.ofHeader stem (withUnit b u)).multiplier = factor ∧
            (ofHeader (withUnit b u)).records channel (withUnit b u) = []) ∧
        ((∀ ending factor, ¬ IsUnit u ending factor) →
          ∃ rest record, Named stem (withUnit b u) rest ∧
            (Info.ofHeader stem (withUnit b u)).multiplier = 1.0 ∧
            (ofHeader (withUnit b u)).records channel (withUnit b u) = [record] ∧
            record.level = .warning) := by
  have hquiet {header : String} (h : (ofHeader header).cleaned = false) :
      (ofHeader header).records channel header = [] := by
    rw [Naming.records, if_neg (by simp [h])]
  refine ⟨?_, fun u hu => ⟨fun ending factor hunit => ?_, fun hunit => ?_⟩⟩
  · obtain ⟨hbase, hfactor, hcleaned⟩ := naming_of_word hb.2
    exact ⟨_, named_of_base hstem hbase, hfactor, hquiet hcleaned⟩
  · obtain ⟨hbase, ⟨front, hfront⟩, hfactor, hcleaned⟩ := naming_of_isUnit hb.2 hunit
    exact ⟨front, hfront ▸ named_of_base hstem hbase, hfactor, hquiet hcleaned⟩
  · have hchars : ∀ c ∈ u.toList, IsHeaderChar c := by
      rcases hu with rfl | hu
      · exact absurd .percent (hunit _ _)
      · exact hu.2
    obtain ⟨hbase, hfactor, hcleaned⟩ := naming_of_not_isUnit hb.2 hchars hunit
    exact ⟨_, _, named_of_base hstem hbase, hfactor, if_pos hcleaned, rfl⟩

/-- The power draw in watts has an ending for its unit; in watt hours it has a warning. -/
theorem named_powerDraw :
    LegalName "gpu" ∧ IsHeaderWord "power.draw" ∧ IsHeaderWord "Wh" ∧
      (∃ front, Named "gpu" (withUnit "power.draw" "W") (front ++ "_watts") ∧
        (Info.ofHeader "gpu" (withUnit "power.draw" "W")).multiplier = 1.0 ∧
        (ofHeader (withUnit "power.draw" "W")).records "" (withUnit "power.draw" "W") = []) ∧
      ∃ rest record, Named "gpu" (withUnit "power.draw" "Wh") rest ∧
        (Info.ofHeader "gpu" (withUnit "power.draw" "Wh")).multiplier = 1.0 ∧
        (ofHeader (withUnit "power.draw" "Wh")).records "" (withUnit "power.draw" "Wh") = [record] ∧
        record.level = .warning := by
  have hstem : LegalName "gpu" := legalName_iff.mpr (by decide)
  have hword : IsHeaderWord "power.draw" := ⟨by decide, Text.forall_of_all (by decide)⟩
  have hunit : IsHeaderWord "Wh" := ⟨by decide, Text.forall_of_all (by decide)⟩
  have hunknown : ∀ ending factor, ¬ IsUnit "Wh" ending factor := by
    intro ending factor h
    generalize hu : "Wh" = u at h
    cases h <;> exact absurd hu (by decide)
  have h := (named_of_header hstem hword "").2
  have hwatts : IsHeaderWord "W" := ⟨by decide, Text.forall_of_all (by decide)⟩
  exact ⟨hstem, hword, hunit, (h "W" (.inr hwatts)).1 _ _ .watts,
    (h "Wh" (.inr hunit)).2 hunknown⟩

/-- The capital letter of the unit that is not known is parted from the bracket in front of it. -/
example : (Info.ofHeader "gpu" "power.draw [Wh]").name = "gpu_power_draw__wh" := by
  decide +kernel

end Metric

end GpuMetrics
