import GpuMetrics.Proofs.Resolution
import GpuMetrics.Proofs.Trimming

/-!
# Lists of fields

A request for fields is a text with commas between the names, or the one word that leaves the choice
to the tool. Every list of names can be written, with any blanks around each of them, and is read
back (`parse_listOf`). A list that was read has names only (`isName_of_mem`), and so has the list
that the required fields are added to. Hence the commas of the query command are those between its
fields, and what it asks for is cut into these fields again (`piecesOf_joined`).
-/

namespace GpuMetrics.Field

/-! ## Names -/

/-- A name that a list of fields can have. -/
structure IsName (name : String) : Prop where
  /-- There is something of it. -/
  nonempty : name ≠ ""
  /-- There are no blanks at its ends. -/
  trimmed : Text.trim name.toList = name.toList
  /-- It does not end where a comma stands. -/
  noComma : ',' ∉ name.toList

/-- A name as it stands in a list, with blanks around it. -/
structure Padded where
  before : List Char
  name : String
  behind : List Char
  blank_before : Text.allBlank before = true
  blank_behind : Text.allBlank behind = true
  isName : IsName name

/-- The characters of a name and the blanks around it. -/
def Padded.text (p : Padded) : List Char := p.before ++ p.name.toList ++ p.behind

/-- The list of some names, with commas between them. -/
def listOf (names : List Padded) : String :=
  String.ofList ([','].intercalate (names.map Padded.text))

/-- No comma stands in a name with the blanks around it. -/
theorem Padded.comma_notMem_text (p : Padded) : ',' ∉ p.text := by
  have hcomma : Text.isBlank ',' = false := by decide
  simp only [text, List.mem_append, not_or]
  exact ⟨⟨Text.notMem_of_allBlank hcomma p.blank_before, p.isName.noComma⟩,
    Text.notMem_of_allBlank hcomma p.blank_behind⟩

/-- A name is left when the blanks around it are trimmed. -/
theorem Padded.trim_text (p : Padded) : Text.trim p.text = p.name.toList := by
  rw [text, Text.trim_surrounded p.blank_before p.blank_behind, p.isName.trimmed]

/-! ## Reading lists -/

namespace Request

variable {raw : String}

/-- The names in a list are its pieces without the blanks around them. -/
theorem map_namesOf (raw : String) :
    (namesOf raw).map String.ofList = (Text.piecesOf ',' raw).map Text.trimmed := by
  simp only [namesOf, Text.piecesOf, List.map_map]
  refine List.map_congr_left fun p _ => ?_
  simp [Text.trimmed]

/-- A name is missing in a list exactly if a piece of it is blank. -/
theorem any_isEmpty_iff : (namesOf raw).any List.isEmpty = true ↔
    ∃ p ∈ Text.piecesOf ',' raw, Text.allBlank p.toList = true := by
  simp only [namesOf, Text.piecesOf, List.any_map, List.any_eq_true, List.mem_map,
    exists_exists_and_eq_and, Function.comp_apply, List.isEmpty_iff, Text.trim_eq_nil_iff,
    String.toList_ofList]

/-- What a list other than the word for all fields is read as. -/
theorem parse_of_ne (h : raw ≠ autoWord) :
    parse raw = if (namesOf raw).any List.isEmpty then .error ⟨raw⟩
      else .ok (.explicit ((Text.piecesOf ',' raw).map Text.trimmed)) := by
  rw [parse, if_neg h, ← map_namesOf]

/-- The pieces of a list without blank ones are names, when the blanks around them are trimmed. -/
theorem isName_of_mem {name : String} (h : (namesOf raw).any List.isEmpty = false)
    (hname : name ∈ (Text.piecesOf ',' raw).map Text.trimmed) : IsName name := by
  rw [← map_namesOf] at hname
  obtain ⟨s, hs, rfl⟩ := List.mem_map.mp hname
  obtain ⟨p, hp, rfl⟩ := List.mem_map.mp hs
  refine ⟨fun hempty => ?_, ?_, ?_⟩
  · have hnil : (Text.trim p).isEmpty = true := by
      rw [List.isEmpty_iff, ← String.toList_ofList (l := Text.trim p), hempty]
      rfl
    exact Bool.eq_false_iff.mp h (List.any_eq_true.mpr ⟨_, hs, hnil⟩)
  · rw [String.toList_ofList, Text.trim_trim]
  · rw [String.toList_ofList]
    obtain ⟨a, b, -, -, hcut⟩ := Text.exists_trim p
    intro hmem
    refine Text.notMem_of_mem_pieces hp ?_
    rw [hcut]
    exact List.mem_append_left b (List.mem_append_right a hmem)

/-- What is read as a list is a list of names. -/
theorem isName_of_parse {fields : List String} (h : parse raw = .ok (.explicit fields))
    {name : String} (hname : name ∈ fields) : IsName name := by
  have hne : raw ≠ autoWord := by
    rintro rfl
    rw [parse, if_pos rfl] at h
    cases h
  rw [parse_of_ne hne] at h
  split at h
  · cases h
  · next hblank =>
    cases h
    exact isName_of_mem (Bool.eq_false_iff.mpr hblank) hname

/-- A list is read back as the names that it was written from. -/
theorem parse_listOf {names : List Padded} (hne : names ≠ []) (hauto : listOf names ≠ autoWord) :
    parse (listOf names) = .ok (.explicit (names.map (·.name))) := by
  have hpieces : Text.pieces ',' (listOf names).toList = names.map Padded.text := by
    have hcommas : ∀ p ∈ names.map Padded.text, ',' ∉ p := by
      intro p hp
      obtain ⟨name, -, rfl⟩ := List.mem_map.mp hp
      exact name.comma_notMem_text
    rw [listOf, String.toList_ofList, Text.pieces_intercalate (by simpa using hne) hcommas]
  have hnames : (Text.piecesOf ',' (listOf names)).map Text.trimmed = names.map (·.name) := by
    rw [Text.piecesOf, hpieces, List.map_map, List.map_map]
    refine List.map_congr_left fun name _ => ?_
    simp [Text.trimmed, Padded.trim_text]
  have hnone : (namesOf (listOf names)).any List.isEmpty = false := by
    rw [namesOf, hpieces, List.map_map, List.any_eq_false]
    intro s hs
    obtain ⟨name, -, rfl⟩ := List.mem_map.mp hs
    simp [Padded.trim_text, name.isName.nonempty]
  rw [parse_of_ne hauto, hnone, hnames]
  rfl

end Request

/-! ## Asking for fields -/

/-- Texts without the separator are the pieces of what they make when it joins them. -/
theorem piecesOf_joined {fields : List String} (hne : fields ≠ [])
    (h : ∀ name ∈ fields, ',' ∉ name.toList) :
    Text.piecesOf ',' (Text.joined "," fields) = fields := by
  have hparts : ∀ p ∈ fields.map String.toList, ',' ∉ p := by
    intro p hp
    obtain ⟨name, hname, rfl⟩ := List.mem_map.mp hp
    exact h name hname
  calc Text.piecesOf ',' (Text.joined "," fields)
      = (Text.pieces ',' ([','].intercalate (fields.map String.toList))).map String.ofList := by
        rw [Text.piecesOf, Text.joined, String.toList_intercalate]
        rfl
    _ = fields := by
        rw [Text.pieces_intercalate (by simpa using hne) hparts, List.map_map]
        simp [Function.comp_def]

/-- The required fields are names, so a list of names to which they are added is one. -/
theorem isName_withRequired {fields : List String} (h : ∀ name ∈ fields, IsName name) :
    ∀ name ∈ withRequired fields, IsName name := by
  have hrequired : ∀ f ∈ required, f.queryField ≠ "" ∧
      Text.trim f.queryField.toList = f.queryField.toList ∧ ',' ∉ f.queryField.toList := by
    decide +kernel
  intro name hname
  rw [withRequired_eq, List.mem_eraseDups, List.mem_append] at hname
  rcases hname with hname | hname
  · exact h name hname
  · obtain ⟨f, hf, rfl⟩ := List.mem_map.mp hname
    obtain ⟨hnonempty, htrimmed, hcomma⟩ := hrequired f hf
    exact ⟨hnonempty, htrimmed, hcomma⟩

/-- The query command of a tool asks for some fields: between the commas of the value in its word
for the query are these fields, in their order. -/
def AsksFor (smi : Smi) (fields : List String) : Prop :=
  ∃ value, smi.queryCommand fields =
    smi.baseCommand ++ ["--query-gpu=" ++ value, "--format=csv"] ∧
      Text.piecesOf ',' value = fields

/-- The rules for what a text asks for. -/
structure Request.Rules (raw : String) : Prop where
  /-- The choice is left to the tool by one word alone. -/
  auto : parse raw = .ok .autoDetect ↔ raw = autoWord
  /-- Any other text is refused exactly if one of its pieces is blank. -/
  refused : raw ≠ autoWord →
    (parse raw = .error ⟨raw⟩ ↔ ∃ p ∈ Text.piecesOf ',' raw, Text.allBlank p.toList = true)
  /-- Otherwise it is a list of names. -/
  names : raw ≠ autoWord → (¬ ∃ p ∈ Text.piecesOf ',' raw, Text.allBlank p.toList = true) →
    ∃ fields, parse raw = .ok (.explicit fields) ∧ fields ≠ [] ∧ ∀ name ∈ fields, IsName name
  /-- It is the list of the names that it was written from, with whatever blanks around them. -/
  written : raw ≠ autoWord → ∀ names : List Padded, names ≠ [] → raw = listOf names →
    parse raw = .ok (.explicit (names.map (·.name)))
  /-- For a list, the query command asks for its names and the required ones, each of them once. -/
  query : ∀ fields, parse raw = .ok (.explicit fields) →
    withRequired fields = (fields ++ required.map (·.queryField)).eraseDups ∧
      ∀ smi, AsksFor smi (withRequired fields)

/-- Every text follows the rules. -/
theorem Request.parse_follows_rules (raw : String) : Rules raw where
  auto := by
    constructor
    · intro h
      by_contra hne
      rw [parse_of_ne hne] at h
      split at h <;> cases h
    · rintro rfl
      rw [parse, if_pos rfl]
  refused hne := by
    rw [parse_of_ne hne, ← any_isEmpty_iff]
    split
    · next hblank => exact iff_of_true rfl hblank
    · next hblank => exact iff_of_false nofun hblank
  names hne hblank := by
    rw [← any_isEmpty_iff, Bool.not_eq_true] at hblank
    refine ⟨_, by rw [parse_of_ne hne, hblank]; rfl, ?_, fun name => isName_of_mem hblank⟩
    simp [Text.piecesOf, Text.pieces_ne_nil]
  written hne names hnames hraw := by
    subst hraw
    exact parse_listOf hnames hne
  query fields hfields := by
    have hnames : ∀ name ∈ withRequired fields, IsName name :=
      isName_withRequired fun name => isName_of_parse hfields
    have hne : withRequired fields ≠ [] :=
      List.ne_nil_of_mem (mem_withRequired (f := ⟨uuid, "uuid"⟩) List.mem_cons_self)
    exact ⟨withRequired_eq fields, fun smi =>
      ⟨_, rfl, piecesOf_joined hne fun name hname => (hnames name hname).noComma⟩⟩

/-- Names with blanks around them, one of them twice. -/
example : Request.parse " name,\tfan.speed ,\nname" =
    .ok (.explicit ["name", "fan.speed", "name"]) := by decide +kernel

end GpuMetrics.Field
