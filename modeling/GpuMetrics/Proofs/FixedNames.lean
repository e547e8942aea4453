import GpuMetrics.Proofs.Families
import GpuMetrics.Proofs.Setting

/-!
# Legal names

A legal name is made of letters, digits, underscores and colons of ASCII from its first character to
its last, and no digit is in front (`Metric.LegalName`). The fixed names of a collector begin with
its stem, so they are legal if the stem is (`Metric.legalName_qualified_iff`).

Settings accept some stems besides: since a plain line may have a line end behind it, so may a stem
(`checkStem_eq_ok_iff`). The line end then stands in the middle of every fixed name, and none of
them is legal. All other stems give legal names (`Collector.fixedNames_of_accepted`).
-/

namespace GpuMetrics

namespace Metric

/-! ## The characters of a legal name -/

/-- A character that a legal name may begin with. -/
def IsHead (c : Char) : Prop :=
  ('a' ≤ c ∧ c ≤ 'z') ∨ ('A' ≤ c ∧ c ≤ 'Z') ∨ c = '_' ∨ c = ':'

/-- A character that may stand behind the first one. -/
def IsTail (c : Char) : Prop := IsHead c ∨ ('0' ≤ c ∧ c ≤ '9')

/-- A legal name: every character of it is one that may stand where it stands. -/
def LegalName (s : String) : Prop :=
  ∃ c r, s.toList = c :: r ∧ IsHead c ∧ ∀ d ∈ r, IsTail d

/-- The order of characters is that of their codes. -/
theorem le_iff_toNat_le {c d : Char} : c ≤ d ↔ c.toNat ≤ d.toNat := by
  rw [Char.le_def, UInt32.le_iff_toNat_le]
  rfl

/-- The characters that begin plain names are those that begin legal names. -/
theorem isNameStart_iff {c : Char} : isNameStart c = true ↔ IsHead c := by
  unfold isNameStart IsHead
  simp only [le_iff_toNat_le, Bool.or_eq_true, Bool.and_eq_true, decide_eq_true_eq]
  constructor
  · rintro (((hcapital | hsmall) | hline) | hcolon)
    · exact .inr (.inl hcapital)
    · exact .inl hsmall
    · exact .inr (.inr (.inl hline))
    · exact .inr (.inr (.inr hcolon))
  · rintro (hsmall | hcapital | hline | hcolon)
    · exact .inl (.inl (.inr hsmall))
    · exact .inl (.inl (.inl hcapital))
    · exact .inl (.inr hline)
    · exact .inr hcolon

/-- The characters of plain names are those of legal names. -/
theorem isNameChar_iff {c : Char} : isNameChar c = true ↔ IsTail c := by
  unfold isNameChar IsTail Text.isAsciiDigit
  rw [Bool.or_eq_true, isNameStart_iff, Bool.and_eq_true, decide_eq_true_eq, decide_eq_true_eq,
    le_iff_toNat_le, le_iff_toNat_le]
  rfl

/-- A name is legal exactly if it is plain. -/
theorem legalName_iff {s : String} : LegalName s ↔ isPlain s.toList = true := by
  unfold LegalName
  constructor
  · rintro ⟨c, r, hs, hc, hr⟩
    rw [hs, isPlain, Bool.and_eq_true, List.all_eq_true]
    exact ⟨isNameStart_iff.mpr hc, fun d hd => isNameChar_iff.mpr (hr d hd)⟩
  · intro h
    cases hs : s.toList with
    | nil =>
      rw [hs] at h
      cases h
    | cons c r =>
      rw [hs, isPlain, Bool.and_eq_true, List.all_eq_true] at h
      exact ⟨c, r, rfl, isNameStart_iff.mp h.1, fun d hd => isNameChar_iff.mp (h.2 d hd)⟩

/-! ## Names with a stem in front -/

/-- A name with a stem in front is legal exactly if the stem is. -/
theorem legalName_qualified_iff {stem name : String} (hstem : stem ≠ "") (hname : LegalName name) :
    LegalName (qualified stem name) ↔ LegalName stem := by
  rw [legalName_iff] at hname
  rw [legalName_iff, legalName_iff]
  exact isPlain_qualified_iff hstem hname

/-- A plain line is a plain name, or one with a line end behind it. -/
theorem isPlainLine_iff {s : List Char} :
    isPlainLine s = true ↔ isPlain s = true ∨ ∃ r, isPlain r = true ∧ s = r ++ ['\n'] := by
  constructor
  · intro h
    unfold isPlainLine withoutLineEnd at h
    split at h
    · next hend =>
      obtain ⟨r, rfl⟩ := List.getLast?_eq_some_iff.mp hend
      rw [List.dropLast_concat] at h
      exact .inr ⟨r, h, rfl⟩
    · exact .inl h
  · rintro (h | ⟨r, h, rfl⟩)
    · exact isPlainLine_of_isPlain h
    · rw [isPlainLine, withoutLineEnd, if_pos List.getLast?_concat, List.dropLast_concat, h]

end Metric

open GpuMetrics.Metric

/-! ## The stems that are accepted -/

/-- The stems that settings accept: nothing, a legal name, and a legal name with a line end behind
it. -/
inductive AcceptedStem : String → Prop
  | /-- The names begin with nothing. -/
    nothing : AcceptedStem ""
  | /-- The names begin with a legal name. -/
    name {name : String} (h : LegalName name) : AcceptedStem name
  | /-- The names begin with a legal name and a line end. -/
    line {name : String} (h : LegalName name) : AcceptedStem (name ++ "\n")

/-- These are the empty text and the plain lines. -/
theorem acceptedStem_iff {stem : String} :
    AcceptedStem stem ↔ (stem.isEmpty || isPlainLine stem.toList) = true := by
  rw [Bool.or_eq_true, String.isEmpty_iff, isPlainLine_iff]
  constructor
  · intro h
    cases h with
    | nothing => exact .inl rfl
    | name h => exact .inr (.inl (legalName_iff.mp h))
    | @line name h =>
      have htext : (name ++ "\n").toList = name.toList ++ ['\n'] := String.toList_append
      exact .inr (.inr ⟨name.toList, legalName_iff.mp h, htext⟩)
  · rintro (rfl | h | ⟨r, hr, hstem⟩)
    · exact .nothing
    · exact .name (legalName_iff.mpr h)
    · have hname : LegalName (String.ofList r) := by
        rw [legalName_iff, String.toList_ofList]
        exact hr
      have htext : stem = String.ofList r ++ "\n" := by
        apply String.toList_injective
        rw [hstem, String.toList_append, String.toList_ofList]
        rfl
      rw [htext]
      exact .line hname

/-- A text is accepted as a stem exactly if it is one of these, and it stays as it is. -/
theorem checkStem_eq_ok_iff {w : Text.Wording} {stem : String} :
    checkStem w = .ok stem ↔ w = stem ∧ AcceptedStem stem := by
  have hstring : w.string? = some stem ↔ w = stem := by
    obtain ⟨head, tail⟩ := w
    cases tail with
    | nil => simp [Text.Wording.string?]
    | cons first rest => simp [Text.Wording.string?]
  -- A text with surrogates has no string, so the check finds none in it.
  unfold checkStem
  simp only
  split
  · next found hfound =>
    obtain ⟨hw, hcheck⟩ := Option.filter_eq_some_iff.mp hfound
    constructor
    · intro h
      cases h
      exact ⟨hstring.mp hw, acceptedStem_iff.mpr hcheck⟩
    · rintro ⟨rfl, -⟩
      cases hw
      rfl
  · next hnone =>
    refine iff_of_false (fun h => by cases h) ?_
    rintro ⟨rfl, haccepted⟩
    have hfound : Option.filter (fun s => s.isEmpty || isPlainLine s.toList)
        (stem : Text.Wording).string? = some stem :=
      Option.filter_eq_some_iff.mpr ⟨rfl, acceptedStem_iff.mp haccepted⟩
    rw [hfound] at hnone
    cases hnone

/-- The stem of settings that come from a document is one of these. -/
theorem Settings.acceptedStem_of_ofDocument {d : Document} {s : Settings}
    (h : ofDocument d = .ok s) : AcceptedStem s.collector.stem := by
  have hread : checkStem s.collector.stem = .ok s.collector.stem :=
    Settings.accepted_of_ofDocument h .stem
  exact (checkStem_eq_ok_iff.mp hread).2

/-- An accepted stem that is not empty is legal unless there is a line end in it. -/
theorem AcceptedStem.legalName_iff_notMem {stem : String} (h : AcceptedStem stem)
    (hstem : stem ≠ "") : LegalName stem ↔ '\n' ∉ stem.toList := by
  constructor
  · intro hlegal
    exact lineEnd_notMem_of_isPlain (legalName_iff.mp hlegal)
  · intro hline
    cases h with
    | nothing => exact absurd rfl hstem
    | name h => exact h
    | line h => simp at hline

namespace Collector

/-- The names of a collector that do not depend on the headers. -/
def fixedNames (c : Collector) : List String :=
  [c.failedScrapesName, c.exitCodeName, c.gpuInfoName]

/-- Each fixed name is a legal name behind the stem. -/
theorem eq_qualified_of_mem_fixedNames {c : Collector} {name : String} (h : name ∈ c.fixedNames) :
    ∃ base, LegalName base ∧ name = qualified c.stem base := by
  have hfailed : LegalName "failed_scrapes_total" := legalName_iff.mpr (by decide)
  have hexit : LegalName "command_exit_code" := legalName_iff.mpr (by decide)
  have hinfo : LegalName "gpu_info" := legalName_iff.mpr (by decide)
  simp only [fixedNames, List.mem_cons, List.not_mem_nil, or_false] at h
  rcases h with rfl | rfl | rfl
  · exact ⟨_, hfailed, rfl⟩
  · exact ⟨_, hexit, rfl⟩
  · exact ⟨_, hinfo, rfl⟩

/-- A text is accepted as a stem exactly if it is nothing, a legal name, or a legal name with a line
end behind it; and with an accepted stem that is not empty, each fixed name of a collector is legal
exactly if there is no such line end. -/
theorem fixedNames_of_accepted {d : Document} {s : Settings} (h : Settings.ofDocument d = .ok s)
    (hstem : s.collector.stem ≠ "") (rule : NameRule) (listener : Option Listener) (smi : Smi)
    (mapping : Field.Mapping) :
    (∀ w stem, checkStem w = .ok stem ↔ w = stem ∧ AcceptedStem stem) ∧
      ∀ name ∈ (ofMapping s.collector rule listener smi mapping).fixedNames,
        LegalName name ↔ '\n' ∉ s.collector.stem.toList := by
  refine ⟨fun _ _ => checkStem_eq_ok_iff, fun name hname => ?_⟩
  obtain ⟨base, hbase, rfl⟩ := eq_qualified_of_mem_fixedNames hname
  have haccepted : AcceptedStem s.collector.stem := Settings.acceptedStem_of_ofDocument h
  calc LegalName (qualified s.collector.stem base)
      ↔ LegalName s.collector.stem := legalName_qualified_iff hstem hbase
    _ ↔ '\n' ∉ s.collector.stem.toList := haccepted.legalName_iff_notMem hstem

/-- A document whose stem has a line end behind it. -/
def lineStemDocument : Document :=
  .ofFields [("collector", .ofFields [("prefix", .text "gpu\n")])]

/-- The settings of that document. -/
def lineStemSettings : Settings := { collector := { stem := "gpu\n" } }

/-- The collector of these settings, for the fields of the catalog. -/
def lineStemCollector : Collector :=
  ofMapping lineStemSettings.collector .anyName none
    ⟨["nvidia-smi"], some 10, "main.GPUCollector"⟩ Field.catalogMapping

/-- A stem with a line end behind it is accepted, and no fixed name is legal then. -/
theorem fixedNames_lineStem :
    Settings.ofDocument lineStemDocument = .ok lineStemSettings ∧
      ∀ name ∈ lineStemCollector.fixedNames, ¬ LegalName name := by
  have hdocument : Settings.ofDocument lineStemDocument = .ok lineStemSettings := rfl
  have hstem : lineStemSettings.collector.stem ≠ "" := by decide
  refine ⟨hdocument, fun name hname hlegal => ?_⟩
  have hline := ((fixedNames_of_accepted hdocument hstem _ _ _ _).2 name hname).mp hlegal
  exact hline (by decide)

end Collector

end GpuMetrics
