import GpuMetrics.Collector.Scrape

/-!
# The fixed families of a collector

Besides the families of its fields a collector has three: the exit code, the failed scrapes and what
tells the devices apart. Each is given only if the rule for names allows its name. Here each of them
is written out as it is exported, and `granting` says under which names it is given. No fixed name
is refused if any name will do, or if the names begin with nothing or with a plain name
(`Collector.granting_fixed`).
-/

namespace GpuMetrics

namespace Metric

/-! ## Names -/

/-- An ending that was put behind a name comes off again. -/
theorem withoutEnding_append (name ending : String) :
    withoutEnding ending (name ++ ending) = name := by
  have hsuffix : ending.toList.isSuffixOf (name ++ ending).toList = true := by
    rw [String.toList_append, List.isSuffixOf_iff_suffix]
    exact List.suffix_append _ _
  rw [withoutEnding, if_pos hsuffix, String.toList_append, List.length_append,
    Nat.add_sub_cancel, List.take_left, String.ofList_toList]

/-- What is put behind a name is put behind its qualified form. -/
theorem qualified_append (stem name ending : String) :
    qualified stem (name ++ ending) = qualified stem name ++ ending := by
  unfold qualified
  split
  · rfl
  · simp [String.append_assoc]

/-- A plain name stays one with further plain characters behind it. -/
theorem isPlain_append {s r : List Char} (hs : isPlain s = true) (hr : r.all isNameChar = true) :
    isPlain (s ++ r) = true := by
  cases s with
  | nil => simp [isPlain] at hs
  | cons c s =>
    rw [isPlain, Bool.and_eq_true] at hs
    rw [List.cons_append, isPlain, List.all_append, hs.1, hs.2, hr]
    rfl

/-- The characters of a plain name are all characters that such a name may have. -/
theorem all_of_isPlain {s : List Char} (hs : isPlain s = true) : s.all isNameChar = true := by
  cases s with
  | nil => rfl
  | cons c s =>
    rw [isPlain, Bool.and_eq_true] at hs
    rw [List.all_cons, hs.2, isNameChar, hs.1]
    rfl

/-- A plain name is not empty. -/
theorem ne_empty_of_isPlain {s : String} (hs : isPlain s.toList = true) : s ≠ "" := by
  rintro rfl
  simp [isPlain] at hs

/-- A plain name has no line end in it. -/
theorem lineEnd_notMem_of_isPlain {s : List Char} (hs : isPlain s = true) : '\n' ∉ s := by
  intro hmem
  have hchar : isNameChar '\n' = true := List.all_eq_true.mp (all_of_isPlain hs) _ hmem
  exact absurd hchar (by decide)

/-- A plain name has no line end behind it, and is allowed without one. -/
theorem isPlainLine_of_isPlain {s : List Char} (hs : isPlain s = true) : isPlainLine s = true := by
  have hend : s.getLast? ≠ some '\n' := fun h =>
    lineEnd_notMem_of_isPlain hs (List.mem_of_getLast? h)
  rw [isPlainLine, withoutLineEnd, if_neg hend, hs]

/-- A front part of a plain name is a plain name, unless it is empty. -/
theorem isPlain_of_append {s r : List Char} (hs : s ≠ []) (h : isPlain (s ++ r) = true) :
    isPlain s = true := by
  cases s with
  | nil => exact absurd rfl hs
  | cons c s =>
    rw [List.cons_append, isPlain, List.all_append, Bool.and_eq_true, Bool.and_eq_true] at h
    rw [isPlain, h.1, h.2.1]
    rfl

/-- A name with a stem in front, written out. -/
theorem toList_qualified {stem : String} (hstem : stem ≠ "") (name : String) :
    (qualified stem name).toList = stem.toList ++ '_' :: name.toList := by
  rw [qualified, if_neg (by simpa [String.isEmpty_iff] using hstem)]
  simp [String.toList_append]

/-- A plain name with a stem in front is plain exactly if the stem is. -/
theorem isPlain_qualified_iff {stem name : String} (hstem : stem ≠ "")
    (hname : isPlain name.toList = true) :
    isPlain (qualified stem name).toList = true ↔ isPlain stem.toList = true := by
  rw [toList_qualified hstem]
  constructor
  · have hnonempty : stem.toList ≠ [] := by simpa using hstem
    exact isPlain_of_append hnonempty
  · intro h
    have hrest : ('_' :: name.toList).all isNameChar = true := by
      rw [List.all_cons, all_of_isPlain hname]
      decide
    exact isPlain_append h hrest

/-- Whether the names with a stem in front are allowed: any name will do, or the stem is nothing or
a plain name. -/
def NameRule.Admits (rule : NameRule) (stem : String) : Prop :=
  rule = .anyName ∨ stem = "" ∨ isPlain stem.toList = true

/-- A plain name with an admitted stem in front is allowed. -/
theorem NameRule.check_qualified {rule : NameRule} {stem name : String} (h : rule.Admits stem)
    (hname : isPlain name.toList = true) : rule.check (qualified stem name) = .ok () := by
  -- Every rule refuses the empty name, so the qualified name has to be shown not to be empty.
  have hne : name ≠ "" := ne_empty_of_isPlain hname
  have hqualified : qualified stem name ≠ "" := by
    unfold qualified
    split
    · exact hne
    · intro hall
      simpa using congrArg String.toList hall
  have hplain : rule = .anyName ∨ isPlain (qualified stem name).toList = true := by
    rcases h with hrule | rfl | hstem
    · exact .inl hrule
    · exact .inr hname
    · exact .inr ((isPlain_qualified_iff (ne_empty_of_isPlain hstem) hname).mpr hstem)
  have hempty : (qualified stem name).isEmpty = false := by
    rw [Bool.eq_false_iff, ne_eq, String.isEmpty_iff]
    exact hqualified
  unfold NameRule.check
  simp only [hempty, Bool.false_eq_true, if_false]
  rcases hplain with rfl | hplain
  · rfl
  · cases rule with
    | anyName => rfl
    | plainName => simp [isPlainLine_of_isPlain hplain]

/-- If a plain name with a stem in front is allowed, the stem is admitted. -/
theorem NameRule.admits_of_check {rule : NameRule} {stem name : String}
    (hname : isPlain name.toList = true) (h : rule.check (qualified stem name) = .ok ()) :
    rule.Admits stem := by
  by_cases hstem : stem = ""
  · exact .inr (.inl hstem)
  cases rule with
  | anyName => exact .inl rfl
  | plainName =>
    have hline : isPlainLine (qualified stem name).toList = true := by
      unfold NameRule.check at h
      split at h
      · cases h
      · by_cases hline : isPlainLine (qualified stem name).toList = true
        · exact hline
        · rw [if_neg hline] at h
          cases h
    -- The last character is one of the plain name, so there is no line end to be taken off.
    have hend : (qualified stem name).toList.getLast? ≠ some '\n' := by
      intro hend
      rw [toList_qualified hstem, List.append_cons, List.getLast?_append] at hend
      cases hlast : name.toList.getLast? with
      | none =>
        rw [List.getLast?_eq_none_iff.mp hlast] at hname
        cases hname
      | some last =>
        rw [hlast, Option.some_or] at hend
        rw [Option.some.inj hend] at hlast
        exact lineEnd_notMem_of_isPlain hname (List.mem_of_getLast? hlast)
    rw [isPlainLine, withoutLineEnd, if_neg hend] at hline
    exact .inr (.inr ((isPlain_qualified_iff hstem hname).mp hline))

/-! ## Gauges written out -/

/-- A value under labels. -/
abbrev Labelled := List (String × String) × Float

/-- A gauge with its values. -/
def gaugeWith (name documentation : String) (values : List Labelled) : Family :=
  ⟨name, .gauge, documentation, values.map fun v => ⟨name, v.1, v.2⟩⟩

/-- A gauge with one more sample. -/
@[simp] theorem withSample_gaugeWith (name documentation : String) (values : List Labelled)
    (labels : List (String × String)) (value : Float) :
    (gaugeWith name documentation values).withSample labels value =
      gaugeWith name documentation (values ++ [(labels, value)]) := by
  simp [Family.withSample, gaugeWith]

end Metric

namespace Collector

/-! ## Names that are granted -/

/-- A value that is given if the rule allows some names. The first name that it refuses is the
fault. -/
def granting {α : Type} (rule : Metric.NameRule) : List String → α → Except Fault α
  | [], a => .ok a
  | name :: rest, a =>
    match rule.check name with
    | .ok _ => granting rule rest a
    | .error e => .error (.name e)

variable {α β : Type}

/-- What is granted or refused does not depend on the value. -/
theorem map_granting (rule : Metric.NameRule) (names : List String) (a : α) (f : α → β) :
    (granting rule names a).map f = granting rule names (f a) := by
  induction names with
  | nil => rfl
  | cons name rest ih =>
    unfold granting
    cases rule.check name with
    | ok _ => exact ih
    | error e => rfl

/-- Names are granted to every value or to none. -/
theorem granting_cases (rule : Metric.NameRule) (names : List String) :
    (∀ {γ : Type} (a : γ), granting rule names a = .ok a) ∨
      ∃ e, ∀ {γ : Type} (a : γ), granting rule names a = .error e := by
  induction names with
  | nil => exact .inl fun _ => rfl
  | cons name rest ih =>
    simp only [granting]
    cases rule.check name with
    | ok _ => exact ih
    | error e => exact .inr ⟨_, fun _ => rfl⟩

/-- If each of the names is allowed, the value is given. -/
theorem granting_of_check {rule : Metric.NameRule} {names : List String}
    (h : ∀ n ∈ names, rule.check n = .ok ()) (a : α) : granting rule names a = .ok a := by
  induction names with
  | nil => rfl
  | cons name rest ih =>
    simp only [granting, h name (by simp)]
    exact ih fun n hn => h n (by simp [hn])

/-- A value is given if each of the names is allowed, and then it is the value that was asked
for. -/
theorem granting_eq_ok_iff {rule : Metric.NameRule} {names : List String} {a b : α} :
    granting rule names a = .ok b ↔ a = b ∧ ∀ n ∈ names, rule.check n = .ok () := by
  induction names with
  | nil => simp [granting]
  | cons name rest ih =>
    simp only [granting, List.forall_mem_cons]
    cases rule.check name with
    | ok _ => simpa using ih
    | error e => simp

/-- A gauge without samples is given if its name is granted. -/
theorem named_gauge (rule : Metric.NameRule) (name documentation : String) :
    named (Metric.gauge rule name documentation) =
      granting rule [name] (Metric.gaugeWith name documentation []) := by
  simp only [named, Metric.gauge, granting]
  cases rule.check name <;> rfl

variable (c : Collector)

/-! ## The exit code -/

/-- The description of the gauge of the exit code. -/
def exitCodeDocumentation : String := "Exit code of the last scrape command"

/-- The gauge of an exit code. -/
def exitGauge (code : Int) : Metric.Family :=
  Metric.gaugeWith c.exitCodeName exitCodeDocumentation [([], Decimal.ofInt code)]

/-- The gauge of an exit code is given if its name is granted. -/
theorem exitCodeSample_eq (code : Int) :
    c.exitCodeSample code = granting c.rule [c.exitCodeName] (c.exitGauge code) := by
  rw [exitCodeSample, exitCodeFamily, named_gauge, map_granting]
  rfl

/-! ## The failed scrapes -/

/-- The name of the counter of failed scrapes without the ending of its samples. -/
def failureName : String := Metric.qualified c.stem "failed_scrapes"

/-- The samples of the counter of failed scrapes have an ending that the counter does not have. -/
theorem failedScrapesName_eq : c.failedScrapesName = c.failureName ++ Metric.totalEnding :=
  Metric.qualified_append c.stem "failed_scrapes" "_total"

/-- The counter of failed scrapes. -/
def failureCounter (count : Nat) : Metric.Family :=
  ⟨c.failureName, .counter, "Number of failed scrapes",
    [⟨c.failedScrapesName, [], Decimal.ofInt count⟩]⟩

/-- The counter of failed scrapes is given if its name without the ending is granted. -/
theorem failedScrapesSample_eq (count : Nat) :
    c.failedScrapesSample count = granting c.rule [c.failureName] (c.failureCounter count) := by
  rw [failedScrapesSample, failedScrapesFamily, named, Metric.counter, failedScrapesName_eq,
    Metric.withoutEnding_append]
  simp only [granting, failureCounter, failedScrapesName_eq]
  cases c.rule.check c.failureName <;> rfl

/-- The counter without its sample is given if its name without the ending is granted. -/
theorem failedScrapesFamily_eq :
    c.failedScrapesFamily = granting c.rule [c.failureName]
      ⟨c.failureName, .counter, "Number of failed scrapes", []⟩ := by
  rw [failedScrapesFamily, named, Metric.counter, failedScrapesName_eq,
    Metric.withoutEnding_append]
  simp only [granting]
  cases c.rule.check c.failureName <;> rfl

/-! ## The families of a scrape -/

/-- What a failed scrape gives: the exit code and the number of failed scrapes. -/
def failureReport (health : Health) : List Metric.Family :=
  [c.exitGauge health.lastExitCode, c.failureCounter health.failedScrapes]

/-- The names of the families that a failed scrape gives. -/
def failureNames : List String := [c.exitCodeName, c.failureName]

/-- The names of the fixed families that a successful scrape gives. -/
def successNames : List String := [c.exitCodeName, c.gpuInfoName]

/-- The fixed names are granted if the stem is admitted. -/
theorem granting_fixed {c : Collector} (h : c.rule.Admits c.stem) {names : List String}
    (hnames : ∀ n ∈ names, n ∈ c.failureNames ++ c.successNames) (a : α) :
    granting c.rule names a = .ok a := by
  refine granting_of_check (fun n hn => ?_) a
  have hfixed := hnames n hn
  simp only [failureNames, successNames, List.mem_append, List.mem_cons, List.not_mem_nil,
    or_false] at hfixed
  -- Each fixed name is a plain one behind the stem.
  rcases hfixed with (rfl | rfl) | (rfl | rfl) <;>
    exact Metric.NameRule.check_qualified h (by decide)

end Collector

end GpuMetrics
