import GpuMetrics.Config.Placeholder
import GpuMetrics.Proofs.Keyed
import Mathlib.Data.List.Forall2
import Mathlib.Data.List.Infix

/-!
# What placeholders turn into

A placeholder has its dollar sign at the front and nowhere else, so what begins in a text and runs
into a placeholder behind it is none itself (`prefix_of_prefix_append`). Hence a text is taken apart
in one way only into placeholders and parts in which there is none (`Template.eq_of_text`), and
replacing placeholders from the left to the right takes it apart in just that way
(`exists_template`).

`Filled` tells what becomes of a document without following the way it is gone through: the values
of the variables stand in the templates of its texts, and all else is as it was. By an induction on
the document (`Document.induction`) there is one such document, and it is the one that `substitute`
gives (`filled_iff_eq_substitute`).
-/

namespace GpuMetrics

/-! ## Documents -/

namespace Document

/-- Whether a value is no text and not made of other values. -/
def IsInert : Document → Prop
  | text _ => False
  | list _ => False
  | table _ => False
  | _ => True

/-- What holds of lists and tables as soon as it holds of the values in them holds of every value,
if it holds of those that are not made of others. -/
theorem induction {P : Document → Prop} (htext : ∀ w, P (text w))
    (hlist : ∀ items, (∀ d ∈ items, P d) → P (list items))
    (htable : ∀ entries, (∀ e ∈ entries, P e.2) → P (table entries))
    (hinert : ∀ d : Document, d.IsInert → P d) (d : Document) : P d := by
  cases d with
  | text w => exact htext w
  | list items => exact hlist items fun d _ => induction htext hlist htable hinert d
  | table entries => exact htable entries fun e _ => induction htext hlist htable hinert e.2
  | _ => exact hinert _ trivial
termination_by d
decreasing_by
  · decreasing_tactic
  · next he =>
    have hlt := List.sizeOf_lt_of_mem he
    have hvalue : sizeOf e.2 < sizeOf e := by
      obtain ⟨k, d⟩ := e
      simp only [Prod.mk.sizeOf_spec]
      omega
    simp only [table.sizeOf_spec]
    omega

end Document

namespace Environment

open Text Wording

variable {env : Environment} {name : String} {l r : List CodePoint}

/-! ## Placeholders -/

/-- A name that a placeholder can hold. -/
def IsVariable (name : String) : Prop := name ≠ "" ∧ ∀ c ∈ name.toList, isWordChar c = true

/-- The placeholder of a variable, as it stands in a text. -/
def placeholder (name : String) : List CodePoint := pointsOf ("$\x7b" ++ name ++ "\x7d")

/-- The text of a placeholder, code point by code point. -/
theorem placeholder_eq (name : String) : placeholder name =
    .character '$' :: .character '\x7b' :: (pointsOf name ++ [.character '\x7d']) := by
  simp [placeholder, pointsOf, String.toList_append]

/-- Characters are known from their code points. -/
theorem pointsOf_injective : Function.Injective pointsOf := fun _ _ h =>
  String.toList_inj.mp (List.map_injective_iff.mpr (fun _ _ => CodePoint.character.inj) h)

/-- None but word characters stand in the name of a variable. -/
theorem notMem_pointsOf (h : IsVariable name) {c : Char} (hc : isWordChar c = false) :
    CodePoint.character c ∉ pointsOf name := by
  intro hmem
  obtain ⟨b, hb, hbc⟩ := List.mem_map.mp hmem
  rw [CodePoint.character.inj hbc] at hb
  simp [h.2 c hb] at hc

/-- A placeholder has its dollar sign at the front and nowhere else. -/
theorem dollar_notMem_tail (h : IsVariable name) :
    CodePoint.character '$' ∉ (placeholder name).tail := by
  have hdollar := notMem_pointsOf h (c := '$') (by decide +kernel)
  simpa [placeholder_eq] using hdollar

/-- A text that begins with a placeholder does so with one only. -/
theorem placeholder_append_inj {m n : String} (hm : IsVariable m) (hn : IsVariable n)
    (h : placeholder m ++ l = placeholder n ++ r) : m = n ∧ l = r := by
  have hbrace : isWordChar '\x7d' = false := by decide +kernel
  simp only [placeholder_eq, List.cons_append, List.append_assoc, List.nil_append, List.cons.injEq,
    true_and] at h
  -- The closing brace ends the name on either side, so both names are of one length.
  have hlength := congrArg (List.idxOf (.character '\x7d')) h
  rw [List.idxOf_append_of_notMem (notMem_pointsOf hm hbrace),
    List.idxOf_append_of_notMem (notMem_pointsOf hn hbrace), List.idxOf_cons_self,
    List.idxOf_cons_self] at hlength
  obtain ⟨hname, hrest⟩ := List.append_inj h hlength
  exact ⟨pointsOf_injective hname, (List.cons.inj hrest).2⟩

/-- Whether a text is over, or a placeholder is at its front. -/
def Opens (r : List CodePoint) : Prop :=
  r = [] ∨ ∃ name t, IsVariable name ∧ r = placeholder name ++ t

/-- What begins in a text and runs into a placeholder behind it is no placeholder. -/
theorem prefix_of_prefix_append (hname : IsVariable name) (hl : l ≠ []) (hr : Opens r)
    (h : placeholder name <+: l ++ r) : placeholder name <+: l := by
  rcases List.prefix_or_prefix_of_prefix h (List.prefix_append l r) with hp | ⟨x, hx⟩
  · exact hp
  · have hxr : x <+: r := (List.prefix_append_right_inj l).mp (hx ▸ h)
    cases x with
    | nil => rw [← hx, List.append_nil]
    | cons p x =>
      -- The dollar sign of the placeholder behind would stand in the tail of this one.
      obtain ⟨q, l, rfl⟩ := List.exists_cons_of_ne_nil hl
      rcases hr with rfl | ⟨m, t, -, rfl⟩
      · simp at hxr
      · rw [placeholder_eq, List.cons_append, List.cons_prefix_cons] at hxr
        refine absurd ?_ (dollar_notMem_tail hname)
        rw [← hx, ← hxr.1]
        simp

/-! ## Templates -/

/-- Whether no placeholder stands in a text. -/
def IsClear (l : List CodePoint) : Prop := ∀ name, IsVariable name → ¬ placeholder name <:+: l

/-- There is no placeholder in nothing. -/
theorem isClear_nil : IsClear [] := fun name _ h => by simp [placeholder_eq] at h

/-- A placeholder with what stands behind it up to the next one. -/
@[ext]
structure Part where
  name : String
  behind : List CodePoint
  isVariable : IsVariable name
  behind_clear : IsClear behind

/-- A text taken apart at its placeholders. None begins in front of them or between them, so they
are those that one meets from the left to the right. -/
@[ext]
structure Template where
  /-- What stands in front of the first placeholder. -/
  front : List CodePoint
  parts : List Part
  front_clear : IsClear front

/-- The placeholder and what stands behind it, as in the text. -/
def Part.text (p : Part) : List CodePoint := placeholder p.name ++ p.behind

/-- The value of the variable, and what stands behind the placeholder. -/
def Part.filled (env : Environment) (p : Part) : List CodePoint :=
  (env.value p.name).points ++ p.behind

/-- The text that is taken apart. -/
def Template.text (T : Template) : List CodePoint := T.front ++ T.parts.flatMap Part.text

/-- The text with the value of each variable in place of its placeholder. -/
def Template.filled (env : Environment) (T : Template) : List CodePoint :=
  T.front ++ T.parts.flatMap (Part.filled env)

/-- A part without placeholders does not run into a placeholder. -/
theorem eq_nil_of_opens {a b x y : List CodePoint} (hclear : IsClear (a ++ b)) (hx : Opens x)
    (hy : Opens y) (h : x = b ++ y) : b = [] := by
  by_contra hb
  rcases hx with rfl | ⟨name, t, hname, rfl⟩
  · exact hb (List.append_eq_nil_iff.mp h.symm).1
  · have hstarts := prefix_of_prefix_append hname hb hy ⟨t, h⟩
    exact hclear name hname (hstarts.isInfix.trans (List.suffix_append a b).isInfix)

/-- The part in front of the first placeholder is known from the text. -/
theorem clear_append_inj {a b x y : List CodePoint} (ha : IsClear a) (hb : IsClear b)
    (hx : Opens x) (hy : Opens y) (h : a ++ x = b ++ y) : a = b ∧ x = y := by
  rcases List.append_eq_append_iff.mp h with ⟨c, rfl, hc⟩ | ⟨c, rfl, hc⟩
  · have hnil := eq_nil_of_opens hb hx hy hc
    simpa [hnil] using hc
  · have hnil := eq_nil_of_opens ha hy hx hc
    simpa [hnil, eq_comm] using hc

/-- Behind the front of a template, the text is over or a placeholder comes. -/
theorem opens_flatMap (parts : List Part) : Opens (parts.flatMap Part.text) := by
  cases parts with
  | nil => exact .inl rfl
  | cons p parts =>
    rw [List.flatMap_cons, Part.text, List.append_assoc]
    exact .inr ⟨p.name, _, p.isVariable, rfl⟩

/-- The placeholders of a text and what stands behind them are known from the text. -/
theorem eq_of_flatMap {s t : List Part} (h : s.flatMap Part.text = t.flatMap Part.text) :
    s = t := by
  induction s generalizing t with
  | nil =>
    cases t with
    | nil => rfl
    | cons q t => simp [Part.text, placeholder_eq] at h
  | cons p s ih =>
    cases t with
    | nil => simp [Part.text, placeholder_eq] at h
    | cons q t =>
      simp only [List.flatMap_cons, Part.text, List.append_assoc] at h
      obtain ⟨hname, hrest⟩ := placeholder_append_inj p.isVariable q.isVariable h
      obtain ⟨hbehind, hparts⟩ := clear_append_inj p.behind_clear q.behind_clear
        (opens_flatMap s) (opens_flatMap t) hrest
      rw [Part.ext hname hbehind, ih hparts]

/-- A text is taken apart in one way only. -/
theorem Template.eq_of_text {S T : Template} (h : S.text = T.text) : S = T := by
  obtain ⟨hfront, hparts⟩ := clear_append_inj S.front_clear T.front_clear
    (opens_flatMap S.parts) (opens_flatMap T.parts) h
  exact Template.ext hfront (eq_of_flatMap hparts)

/-! ## Replacing from the left to the right -/

/-- The placeholder at the front of a string, and what is behind it. -/
theorem placeholder?_eq_some_iff {s n t : List Char} : placeholder? s = some (n, t) ↔
    IsVariable (String.ofList n) ∧ s = '$' :: '\x7b' :: (n ++ '\x7d' :: t) := by
  constructor
  · intro h
    unfold placeholder? at h
    split at h
    · next r =>
      split at h
      · next t' hbehind =>
        dsimp only at h
        split at h
        · simp at h
        · next hempty =>
          simp only [Option.some.injEq, Prod.mk.injEq] at h
          obtain ⟨rfl, rfl⟩ := h
          refine ⟨⟨by simpa [← String.toList_inj] using hempty, fun c hc => ?_⟩, ?_⟩
          · rw [String.toList_ofList] at hc
            exact List.all_eq_true.mp List.all_takeWhile c hc
          · rw [← hbehind, List.takeWhile_append_dropWhile]
      · simp at h
    · simp at h
  · rintro ⟨⟨hne, hword⟩, rfl⟩
    rw [String.toList_ofList] at hword
    have hbrace : isWordChar '\x7d' = false := by decide +kernel
    have hempty : n.isEmpty = false := by
      cases n with
      | nil => simp at hne
      | cons c n => rfl
    simp [placeholder?, List.dropWhile_append_of_pos hword, List.takeWhile_append_of_pos hword,
      hbrace, hempty]

/-- A placeholder at the front gives the value of its variable. -/
theorem expand_of_placeholder {s n t : List Char} (h : placeholder? s = some (n, t)) :
    env.expand s = (env.value (String.ofList n)).points ++ env.expand t := by
  cases s with
  | nil => simp [placeholder?] at h
  | cons c s =>
    rw [expand]
    split <;> simp_all

/-- A character that no placeholder begins with stays. -/
theorem expand_of_none {c : Char} {s : List Char} (h : placeholder? (c :: s) = none) :
    env.expand (c :: s) = .character c :: env.expand s := by
  rw [expand]
  split <;> simp_all

/-- The characters up to the first surrogate are at the front. -/
theorem isPrefix_runsOf (l : List CodePoint) : (runsOf l).1.map .character <+: l := by
  induction l with
  | nil => exact List.nil_prefix
  | cons p r ih =>
    cases p with
    | character c => simpa [runsOf, List.cons_prefix_cons] using ih
    | surrogate s => exact List.nil_prefix

/-- A text is known from its code points. -/
theorem points_injective : Function.Injective points :=
  Function.LeftInverse.injective ofPoints_points

/-- Code points with the placeholders in them replaced. -/
def expandedPoints (env : Environment) (l : List CodePoint) : List CodePoint :=
  (env.expanded (ofPoints l)).points

/-- Strings between surrogates are replaced by themselves, and the surrogates stay. -/
theorem expandedPoints_eq (l : List CodePoint) : env.expandedPoints l =
    env.expand (runsOf l).1 ++ (runsOf l).2.flatMap fun e => .surrogate e.1 :: env.expand e.2 := by
  rw [expandedPoints, expanded, points_ofPoints]
  simp [ofPoints, List.flatMap_map]

/-- A placeholder is replaced by the value of its variable, which is not looked at again. -/
theorem expandedPoints_placeholder (hname : IsVariable name) (r : List CodePoint) :
    env.expandedPoints (placeholder name ++ r) =
      (env.value name).points ++ env.expandedPoints r := by
  have hfront : placeholder? (("$\x7b" ++ name ++ "\x7d").toList ++ (runsOf r).1) =
      some (name.toList, (runsOf r).1) :=
    placeholder?_eq_some_iff.mpr ⟨by simpa using hname, by simp [String.toList_append]⟩
  rw [expandedPoints_eq, placeholder, pointsOf, runsOf_append, expand_of_placeholder hfront,
    String.ofList_toList, List.append_assoc, ← expandedPoints_eq]

/-- A code point where no placeholder begins stays. -/
theorem expandedPoints_cons {p : CodePoint}
    (h : ∀ name, IsVariable name → ¬ placeholder name <+: p :: r) :
    env.expandedPoints (p :: r) = p :: env.expandedPoints r := by
  cases p with
  | surrogate s => simp [expandedPoints_eq, runsOf, expand]
  | character c =>
    have hfront : placeholder? (c :: (runsOf r).1) = none := by
      rw [Option.eq_none_iff_forall_ne_some]
      rintro ⟨n, t⟩ hsome
      obtain ⟨hname, hs⟩ := placeholder?_eq_some_iff.mp hsome
      have hrun : placeholder (String.ofList n) <+: (c :: (runsOf r).1).map .character :=
        ⟨t.map .character, by simp [placeholder, pointsOf, String.toList_append, hs]⟩
      exact h _ hname (hrun.trans (isPrefix_runsOf (.character c :: r)))
    rw [expandedPoints_eq, runsOf, expand_of_none hfront, List.cons_append, ← expandedPoints_eq]

/-- Every text has a template, and replacing its placeholders fills the template. -/
theorem exists_template (env : Environment) (l : List CodePoint) :
    ∃ T : Template, T.text = l ∧ T.filled env = env.expandedPoints l := by
  induction hlength : l.length using Nat.strong_induction_on generalizing l with
  | _ k ih =>
    subst hlength
    -- A placeholder at the front begins a part; any other code point goes to what is in front of
    -- the first part of the rest.
    by_cases hfront : ∃ name, IsVariable name ∧ placeholder name <+: l
    · obtain ⟨name, hname, r, rfl⟩ := hfront
      obtain ⟨T, hT, hfilled⟩ := ih r.length (by simp [placeholder_eq]; omega) r rfl
      refine ⟨⟨[], ⟨name, T.front, hname, T.front_clear⟩ :: T.parts, isClear_nil⟩, ?_, ?_⟩
      · simp [Template.text, Part.text, ← hT]
      · rw [expandedPoints_placeholder hname, ← hfilled]
        simp [Template.filled, Part.filled]
    · push Not at hfront
      cases l with
      | nil =>
        refine ⟨⟨[], [], isClear_nil⟩, rfl, ?_⟩
        simp [Template.filled, expandedPoints_eq, runsOf, expand]
      | cons p r =>
        obtain ⟨T, hT, hfilled⟩ := ih r.length (by simp) r rfl
        have hclear : IsClear (p :: T.front) := by
          intro name hname hinfix
          rcases List.infix_cons_iff.mp hinfix with hstarts | hinfix
          · refine hfront name hname (hstarts.trans ?_)
            rw [← hT]
            exact List.prefix_append (p :: T.front) _
          · exact T.front_clear name hname hinfix
        refine ⟨⟨p :: T.front, T.parts, hclear⟩, ?_, ?_⟩
        · simp [Template.text, ← hT]
        · rw [expandedPoints_cons hfront, ← hfilled]
          rfl

/-! ## Documents -/

/-- What becomes of a document. -/
inductive Filled (env : Environment) : Document → Document → Prop
  | /-- The values of the variables stand in the template of a text. -/
    text {w v : Wording} (T : Template) (hw : w.points = T.text) (hv : v.points = T.filled env) :
      Filled env (.text w) (.text v)
  | /-- A list keeps its length, and its items their places. -/
    list {items items' : List Document} (h : List.Forall₂ (Filled env) items items') :
      Filled env (.list items) (.list items')
  | /-- A table keeps its keys in their order, and each value its key. -/
    table {entries entries' : List (Key × Document)}
      (hkeys : Keyed.keys entries' = Keyed.keys entries)
      (h : List.Forall₂ (Filled env) (entries.map (·.2)) (entries'.map (·.2))) :
      Filled env (.table entries) (.table entries')
  | /-- Every other value stays. -/
    inert {d : Document} (h : d.IsInert) : Filled env d d

/-- Replacing in a list replaces in each of its items. -/
theorem substituteItems_eq_map (items : List Document) :
    substituteItems env items = items.map env.substitute := by
  induction items with
  | nil => rfl
  | cons d r ih => rw [substituteItems, ih, List.map_cons]

/-- Replacing in a table keeps the keys and replaces in each of the values. -/
theorem eq_substituteEntries_iff {entries replaced : List (Key × Document)} :
    replaced = substituteEntries env entries ↔ Keyed.keys replaced = Keyed.keys entries ∧
      replaced.map (·.2) = (entries.map (·.2)).map env.substitute := by
  induction entries generalizing replaced with
  | nil => simp [substituteEntries, Keyed.keys]
  | cons e r ih =>
    cases replaced with
    | nil => simp [substituteEntries, Keyed.keys]
    | cons e' r' =>
      simp only [substituteEntries, List.cons.injEq, Keyed.keys_cons, List.map_cons, ih,
        Prod.ext_iff]
      tauto

/-- A value that is no text and not made of other values stays as it is. -/
theorem substitute_of_isInert {d : Document} (h : d.IsInert) : env.substitute d = d := by
  cases d <;> first | rfl | exact h.elim

/-- Values that are each known from their partner are known together. -/
theorem forall₂_iff_eq_map {R : Document → Document → Prop} {f : Document → Document}
    {ds es : List Document} (h : ∀ d ∈ ds, ∀ e, R d e ↔ e = f d) :
    List.Forall₂ R ds es ↔ es = ds.map f := by
  induction ds generalizing es with
  | nil => simp
  | cons d ds ih =>
    rw [List.forall_mem_cons] at h
    rw [List.forall₂_cons_left_iff, List.map_cons]
    constructor
    · rintro ⟨e, es, hd, hds, rfl⟩
      rw [(h.1 e).mp hd, (ih h.2).mp hds]
    · rintro rfl
      exact ⟨_, _, (h.1 _).mpr rfl, (ih h.2).mpr rfl, rfl⟩

/-- There is one text that a text becomes. -/
theorem filled_text_iff (env : Environment) (w : Wording) (e : Document) :
    Filled env (.text w) e ↔ e = .text (env.expanded w) := by
  obtain ⟨T, hT, hfilled⟩ := exists_template env w.points
  rw [expandedPoints, ofPoints_points] at hfilled
  constructor
  · rintro (⟨S, hS, hv⟩ | _ | _ | h)
    · -- The template is the one that replacing the placeholders fills.
      rw [Template.eq_of_text (hS.symm.trans hT.symm), hfilled] at hv
      rw [points_injective hv]
    · exact h.elim
  · rintro rfl
    exact .text T hT.symm hfilled.symm

/-- There is one document that a document becomes, the one that replacing gives. -/
theorem filled_iff_eq_substitute (env : Environment) (d e : Document) :
    Filled env d e ↔ e = env.substitute d := by
  -- Either side follows the kind of the document, and the items and values in it are known already.
  induction d using Document.induction generalizing e with
  | htext w => rw [filled_text_iff, substitute]
  | hlist items ih =>
    rw [substitute, substituteItems_eq_map]
    constructor
    · rintro (_ | h | _ | h)
      · rw [(forall₂_iff_eq_map ih).mp h]
      · exact h.elim
    · rintro rfl
      exact .list ((forall₂_iff_eq_map ih).mpr rfl)
  | htable entries ih =>
    have hvalues : ∀ d ∈ entries.map (·.2), ∀ e, Filled env d e ↔ e = env.substitute d :=
      List.forall_mem_map.mpr ih
    rw [substitute]
    constructor
    · rintro (_ | _ | ⟨hkeys, h⟩ | h)
      · rw [eq_substituteEntries_iff.mpr ⟨hkeys, (forall₂_iff_eq_map hvalues).mp h⟩]
      · exact h.elim
    · rintro rfl
      obtain ⟨hkeys, h⟩ := eq_substituteEntries_iff.mp (rfl : substituteEntries env entries = _)
      exact .table hkeys ((forall₂_iff_eq_map hvalues).mpr h)
  | hinert d hd =>
    rw [substitute_of_isInert hd]
    constructor
    · rintro (_ | _ | _ | _)
      · exact hd.elim
      · exact hd.elim
      · exact hd.elim
      · rfl
    · rintro rfl
      exact .inert hd

/-- A value with a placeholder in it, and marks that belong to none. -/
example : expanded [("B", "$\x7bC\x7d"), ("C", "c")] "$\x7ba$\x7bB\x7d\x7d $$\x7bC\x7d $\x7b\x7d" =
    "$\x7ba$\x7bC\x7d\x7d $c $\x7b\x7d" := by
  decide +kernel

end Environment

end GpuMetrics
