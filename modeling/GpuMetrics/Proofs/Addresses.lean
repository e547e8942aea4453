import GpuMetrics.Proofs.Cells
import GpuMetrics.Proofs.Trimming
import GpuMetrics.Config.Check

/-!
# Listen addresses

An address is a host, a colon and a port (`IsAddress`). The port is looked at twice: all of its
characters have to look like digits, and then it is read as a number. Of the texts that pass the
first check, the second one takes the rows of decimal digits that are not too long
(`read_eq_ok_iff`), since base ten has no other digits (`digitIn?_ten`). There is no colon among
these, so that the last colon of a text is the one in front of its port, and an address is read from
exactly the texts that are one (`parse_of_isAddress`, `exists_isAddress_of_parse`). Of the host is
left what is inside all the brackets at its ends (`encloses_withoutBrackets`,
`withoutBrackets_of_encloses`).

The settings take a text as the address to listen on exactly if an address can be read from it, and
have a problem with any other text (`ofDocument_listening`).
-/

namespace GpuMetrics

/-! ## Ports -/

namespace Text

variable {c : Char} {n : Nat} {s : List Char}

/-- A decimal digit stands for a number below ten. -/
theorem lt_ten_of_digitValue? (h : digitValue? c = some n) : n < 10 := by
  unfold digitValue? at h
  simp only at h
  split at h
  · split at h
    · next hrange =>
      simp only [Bool.and_eq_true, decide_eq_true_eq] at hrange
      have := Option.some.inj h
      omega
    · cases h
  · obtain ⟨z, hz, rfl⟩ := Option.map_eq_some_iff.mp h
    have hrange := List.find?_some hz
    simp only [Bool.and_eq_true, decide_eq_true_eq] at hrange
    omega

/-- The digits in base ten are the decimal digits. -/
theorem Whole.digitIn?_ten (c : Char) : digitIn? 10 c = digitValue? c := by
  unfold digitIn?
  cases hc : digitValue? c with
  | some n => exact Option.filter_some_pos (by simpa using lt_ten_of_digitValue? hc)
  | none =>
    -- Of the hexadecimal digits only letters are left, which stand for ten and more.
    have hdigit : ¬ (48 ≤ c.toNat ∧ c.toNat ≤ 57) := by
      intro hrange
      have hascii : c.toNat < 128 := by omega
      simp [digitValue?, hascii, hrange] at hc
    rw [Option.filter_eq_none_iff]
    intro n hn
    simp only [hexValue?, Bool.and_eq_true, decide_eq_true_eq, if_neg hdigit] at hn
    rw [decide_eq_true_eq, Nat.not_lt]
    split at hn
    · have := Option.some.inj hn
      omega
    split at hn
    · have := Option.some.inj hn
      omega
    · cases hn

/-- What looks like a digit is not blank. -/
theorem isBlank_of_isDigitLike (h : isDigitLike c = true) : isBlank c = false := by
  rw [isDigitLike, Bool.or_eq_true] at h
  rcases h with h | h
  · exact isBlank_of_isDecimal h
  · obtain ⟨r, hr, hc⟩ := List.any_eq_true.mp h
    simp only [Bool.and_eq_true, decide_eq_true_eq] at hc
    have hranges : ∀ r ∈ digitLikeRanges, 0xA0 < r.1 ∧ r.2 < 0x1680 ∨ 0x1680 < r.1 ∧ r.2 < 0x2000 ∨
        0x205F < r.1 ∧ r.2 < 0x3000 ∨ 0x3000 < r.1 := by decide
    have := hranges r hr
    unfold isBlank
    simp
    omega

namespace Whole

/-- A row of decimal digits writes the same number in base ten as anywhere else. -/
theorem valueOf_ten (s : List Char) : valueOf 10 s = digitsValue s := by
  simp only [valueOf, digitsValue, digitIn?_ten]

/-- A number in base ten is read from a row of decimal digits that is not too long, and from nothing
else. -/
theorem magnitude_eq_ok_iff {whole : Wording} : magnitude 10 whole s = .ok n ↔
    s ≠ [] ∧ s.length ≤ 4300 ∧ (∀ c ∈ s, isDecimal c = true) ∧ digitsValue s = n := by
  have hmark : withoutMark 10 s = s := by
    unfold withoutMark
    split <;> simp [markOf?]
  have hdigits : (isDigitIn 10 : Char → Bool) = isDecimal := by
    funext c
    rw [isDigitIn, digitIn?_ten, isDecimal]
  unfold magnitude
  simp only [hmark, hdigits, valueOf_ten, mostDigits]
  by_cases hall : ∀ c ∈ s, isDecimal c = true
  · rw [List.takeWhile_eq_self_iff.mpr hall]
    by_cases hlength : s.length ≤ 4300
    · have hfits : ¬ 4300 < s.length := by omega
      by_cases hne : s = []
      · simp [hne]
      · have hempty : s.isEmpty = false := by simpa using hne
        simp [hfits, hlength, hne, hempty, eq_true hall]
    · have hlong : 4300 < s.length := by omega
      simp [hlong, hlength]
  · -- The digits at the front are not the whole text.
    have hshort : (s.takeWhile isDecimal).length < s.length := by
      have hstarts := List.takeWhile_prefix isDecimal (l := s)
      refine Nat.lt_of_le_of_ne hstarts.length_le fun hlength => hall ?_
      exact List.takeWhile_eq_self_iff.mp (hstarts.eq_of_length hlength)
    simp only [hshort, hall, decide_true, Bool.or_true, if_true, false_and, and_false, iff_false]
    split <;> simp

/-- A text whose characters all look like digits is read without a sign. -/
theorem read_of_isDigitLike (h : ∀ c ∈ s, isDigitLike c = true) :
    read 10 s = (magnitude 10 (String.ofList s) s).map fun n => (n : Int) := by
  have hspace : trimSpace s = s := Decimal.trimSpace_eq_self fun c hc => by
    rw [isSpace, isBlank_of_isDigitLike (h c hc), Bool.false_and]
  rw [read, readWording, Wording.outline_coe, String.toList_ofList, hspace]
  split
  · exact absurd (h '-' List.mem_cons_self) (by decide)
  · exact absurd (h '+' List.mem_cons_self) (by decide)
  · rfl

/-- Of the texts whose characters all look like digits, those are read that are decimal digits, at
least one of them and not too many. -/
theorem read_eq_ok_iff (h : ∀ c ∈ s, isDigitLike c = true) {i : Int} : read 10 s = .ok i ↔
    s ≠ [] ∧ s.length ≤ 4300 ∧ (∀ c ∈ s, isDecimal c = true) ∧ digitsValue s = i := by
  rw [read_of_isDigitLike h]
  constructor
  · intro hread
    cases hmagnitude : magnitude 10 (String.ofList s) s with
    | error e =>
      rw [hmagnitude] at hread
      cases hread
    | ok n =>
      obtain ⟨hne, hshort, hdigits, rfl⟩ := magnitude_eq_ok_iff.mp hmagnitude
      rw [hmagnitude] at hread
      exact ⟨hne, hshort, hdigits, Except.ok.inj hread⟩
  · rintro ⟨hne, hshort, hdigits, rfl⟩
    rw [magnitude_eq_ok_iff.mpr ⟨hne, hshort, hdigits, rfl⟩]
    rfl

end Whole

end Text

/-! ## Hosts -/

namespace Address

variable {host inner port : List Char} {v : String}

/-- A square bracket, which can stand around a host. -/
def isBracket (c : Char) : Bool := c = '[' || c = ']'

/-- A host without brackets at its ends. -/
structure IsBare (host : List Char) : Prop where
  front : ∀ c ∈ host.head?, isBracket c = false
  back : ∀ c ∈ host.getLast?, isBracket c = false

/-- What is inside all the brackets at the ends of a host. -/
def Encloses (host inner : List Char) : Prop :=
  IsBare inner ∧ ∃ a b, a.all isBracket = true ∧ b.all isBracket = true ∧ host = a ++ inner ++ b

/-- What is left of a host is inside all the brackets at its ends. -/
theorem encloses_withoutBrackets (host : List Char) : Encloses host (withoutBrackets host) := by
  have hends (s : List Char) : ∀ c ∈ (s.dropWhile isBracket).head?, isBracket c = false := by
    intro c hc
    have hnot := List.head?_dropWhile_not isBracket s
    rw [hc] at hnot
    simpa using hnot
  have hcut (s : List Char) : s.takeWhile isBracket ++ s.dropWhile isBracket = s :=
    List.takeWhile_append_dropWhile
  -- What is dropped from the end stands behind what is left.
  obtain ⟨b, hb, hback⟩ : ∃ b, b.all isBracket = true ∧
      host.dropWhile isBracket = withoutBrackets host ++ b := by
    refine ⟨((host.dropWhile isBracket).reverse.takeWhile isBracket).reverse, ?_, ?_⟩
    · rw [List.all_reverse]
      exact List.all_takeWhile
    · show _ = ((host.dropWhile isBracket).reverse.dropWhile isBracket).reverse ++ _
      rw [← List.reverse_append, hcut, List.reverse_reverse]
  refine ⟨⟨fun c hc => hends host c ?_, fun c hc => ?_⟩, host.takeWhile isBracket, b,
    List.all_takeWhile, hb, ?_⟩
  · rw [hback, List.head?_append, Option.mem_def.mp hc]
    rfl
  · rw [withoutBrackets, List.getLast?_reverse] at hc
    exact hends _ c hc
  · rw [List.append_assoc, ← hback, hcut]

/-- Nothing else is inside all the brackets. -/
theorem withoutBrackets_of_encloses (h : Encloses host inner) : withoutBrackets host = inner := by
  obtain ⟨hbare, a, b, ha, hb, rfl⟩ := h
  rw [List.all_eq_true] at ha hb
  have hkept {s : List Char} (hs : ∀ c ∈ s.head?, isBracket c = false) :
      s.dropWhile isBracket = s := by
    cases s with
    | nil => rfl
    | cons c s => rw [List.dropWhile_cons_of_neg (by simp [hs c rfl])]
  show (((a ++ inner ++ b).dropWhile isBracket).reverse.dropWhile isBracket).reverse = inner
  cases inner with
  | nil =>
    have hall : (a ++ [] ++ b).dropWhile isBracket = [] := by
      rw [List.append_nil, List.dropWhile_append_of_pos ha, List.dropWhile_eq_nil_iff]
      exact hb
    rw [hall]
    rfl
  | cons c r =>
    have hfront : (a ++ c :: r ++ b).dropWhile isBracket = c :: r ++ b := by
      rw [List.append_assoc, List.dropWhile_append_of_pos ha]
      exact hkept hbare.front
    have hback : (c :: r ++ b).reverse.dropWhile isBracket = (c :: r).reverse := by
      rw [List.reverse_append, List.dropWhile_append_of_pos fun c hc => hb c (by simpa using hc)]
      refine hkept fun c hc => hbare.back c ?_
      rwa [List.head?_reverse] at hc
    rw [hfront, hback, List.reverse_reverse]

/-! ## Addresses -/

/-- A text that is a host, a colon and a port: the port is a row of decimal digits of any script
that is not too long, and writes a number that a port can have. -/
structure IsAddress (v : String) (host port : List Char) : Prop where
  parts : v.toList = host ++ ':' :: port
  nonempty : port ≠ []
  short : port.length ≤ 4300
  digits : ∀ c ∈ port, Text.isDecimal c = true
  most : Text.digitsValue port ≤ 65535

/-- There is no colon in a port. -/
theorem IsAddress.colon_notMem (h : IsAddress v host port) : ':' ∉ port := fun hmem =>
  absurd (h.digits ':' hmem) (by decide)

/-- The address that a text writes. -/
theorem parse_of_isAddress (h : IsAddress v host port) :
    parse v = .ok ⟨String.ofList (withoutBrackets host), Text.digitsValue port⟩ := by
  have hlike : ∀ c ∈ port, Text.isDigitLike c = true := fun c hc => by
    rw [Text.isDigitLike, h.digits c hc, Bool.true_or]
  have hread : Text.Whole.read 10 port = .ok (Text.digitsValue port : Int) :=
    (Text.Whole.read_eq_ok_iff hlike).mpr ⟨h.nonempty, h.short, h.digits, rfl⟩
  have hform : (port.isEmpty || !port.all Text.isDigitLike) = false := by
    simpa [h.nonempty] using hlike
  have hmost : ¬ (Text.digitsValue port : Int) > mostPort := by
    have := h.most
    rw [mostPort]
    omega
  rw [parse, h.parts, Text.cutLast?_append h.colon_notMem]
  simp only [hform, hread, hmost, if_false, Bool.false_eq_true, Int.toNat_natCast]

/-- Every text that an address is read from has a host and a port. -/
theorem exists_isAddress_of_parse {a : Address} (h : parse v = .ok a) :
    ∃ host port, IsAddress v host port := by
  by_cases hcolon : ':' ∈ v.toList
  · obtain ⟨host, port, hparts, hport⟩ := Text.exists_last_separator hcolon
    rw [parse, hparts, Text.cutLast?_append hport] at h
    simp only at h
    split at h
    · cases h
    · next hform =>
      rw [Bool.not_eq_true, Bool.or_eq_false_iff, Bool.not_eq_false'] at hform
      have hlike : ∀ c ∈ port, Text.isDigitLike c = true := List.all_eq_true.mp hform.2
      split at h
      · cases h
      · next n hread =>
        obtain ⟨hne, hshort, hdigits, rfl⟩ := (Text.Whole.read_eq_ok_iff hlike).mp hread
        split at h
        · cases h
        · next hmost =>
          rw [mostPort] at hmost
          exact ⟨host, port, hparts, hne, hshort, hdigits, by omega⟩
  · rw [parse, Text.cutLast?_of_notMem hcolon] at h
    cases h

/-! ## Ports in ASCII -/

/-- A digit of ASCII stands for its distance from the zero. -/
theorem digitValue?_of_isDigit {c : Char} (h : c.isDigit = true) :
    Text.digitValue? c = some (c.toNat - '0'.toNat) := by
  have hrange : 48 ≤ c.toNat ∧ c.toNat ≤ 57 := by
    simp only [Char.isDigit, Bool.and_eq_true, decide_eq_true_eq] at h
    exact ⟨h.1, h.2⟩
  have hascii : c.toNat < 128 := by omega
  simp [Text.digitValue?, hascii, hrange]

/-- The digits of a number write this number. -/
theorem digitsValue_decimalText (n : Nat) : Text.digitsValue (Text.decimalText n) = n := by
  have hfold (s : List Char) (hs : ∀ c ∈ s, c.isDigit = true) (m : Nat) :
      s.foldl (fun n c => 10 * n + (Text.digitValue? c).getD 0) m = Nat.ofDigitChars 10 s m := by
    induction s generalizing m with
    | nil => rfl
    | cons c s ih =>
      obtain ⟨hc, hs⟩ := List.forall_mem_cons.mp hs
      rw [List.foldl_cons, digitValue?_of_isDigit hc, ih hs]
      rfl
  have hdigits : ∀ c ∈ Text.decimalText n, c.isDigit = true := fun c hc =>
    Nat.isDigit_of_mem_toDigits (by decide) (by decide) hc
  rw [Text.digitsValue, hfold _ hdigits, Text.decimalText, Nat.ofDigitChars_ten_toDigits]

/-- A host, a colon and the digits of a port are an address. -/
theorem isAddress_decimalText {n : Nat} (hn : n ≤ 65535)
    (hparts : v.toList = host ++ ':' :: Text.decimalText n) :
    IsAddress v host (Text.decimalText n) where
  parts := hparts
  nonempty := Nat.toDigits_ne_nil
  short := by
    have hfive : (Text.decimalText n).length ≤ 5 :=
      (Nat.length_toDigits_le_iff (by decide) (by decide)).mpr (by omega)
    omega
  digits c hc := Text.isDecimal_of_isDigit (Nat.isDigit_of_mem_toDigits (by decide) (by decide) hc)
  most := by rwa [digitsValue_decimalText]

end Address

/-! ## Settings -/

/-- The document that sets the address to listen on and nothing else. -/
def Document.listening (v : String) : Document :=
  .ofFields [("web", .ofFields [("listen_address", .ofString v)])]

/-- What the web settings with an address alone are read as. -/
theorem WebSettings.ofEntries_listening (path : List String) (v : String) :
    ofEntries path [(.name ("listen_address" : String), .ofString v)] =
      match Address.parse v with
      | .ok _ => .ok { listenAddress := v }
      | .error e => .error [⟨path ++ ["listen_address"], .refused (.address e)⟩] := by
  have haddress (read : Document → Except Problem Text.Wording) (fallback : Text.Wording) :
      setting [(.name ("listen_address" : String), .ofString v)] "listen_address" read fallback =
        read (.ofString v) := rfl
  have hpath (read : Document → Except Problem Text.Wording) (fallback : Text.Wording) :
      setting [(.name ("listen_address" : String), .ofString v)] "telemetry_path" read fallback =
        .ok fallback := rfl
  have hcheck : ((Document.ofString v).readText.bind checkAddress) =
      match Address.parse v with
      | .ok _ => .ok (v : Text.Wording)
      | .error e => .error (.refused (.address e)) := rfl
  unfold ofEntries
  simp only [haddress, hpath, hcheck]
  cases Address.parse v <;> rfl

/-- What a document with an address alone is read as. -/
theorem Settings.ofDocument_listening (v : String) :
    ofDocument (.listening v) =
      match Address.parse v with
      | .ok _ => .ok { web := { listenAddress := v } }
      | .error e => .error (.problems [⟨["web", "listen_address"], .refused (.address e)⟩]) := by
  have hcollector : part (Document.listening v).entries "collector" "CollectorConfig"
      CollectorSettings.ofEntries {} = .ok {} := rfl
  have hweb : part (Document.listening v).entries "web" "WebConfig" WebSettings.ofEntries {} =
      WebSettings.ofEntries ["web"] [(.name ("listen_address" : String), .ofString v)] := rfl
  have hlevel : setting (Document.listening v).entries "log_level"
      (fun v => v.readText.bind checkLogLevel) "INFO" = .ok "INFO" := rfl
  show (ofEntries (Document.listening v).entries).mapError Rejection.problems = _
  rw [WebSettings.ofEntries_listening] at hweb
  unfold ofEntries
  simp only [hcollector, hweb, hlevel]
  cases Address.parse v <;> rfl

/-! ## Addresses in settings -/

/-- The rules for a text as the address to listen on. -/
structure Address.Rules (v : String) : Prop where
  /-- The settings take it exactly if it has a host and a port. -/
  accepted : (∃ s, Settings.ofDocument (.listening v) = .ok s) ↔ ∃ host port, IsAddress v host port
  /-- Otherwise it is a problem of this one setting. -/
  refused : (¬ ∃ host port, IsAddress v host port) → ∃ fault, Settings.ofDocument (.listening v) =
    .error (.problems [⟨["web", "listen_address"], .refused (.address fault)⟩])
  /-- The settings give back what is inside the brackets of the host, and the number of the port. -/
  read : ∀ host port, IsAddress v host port → ∃ s inner, Encloses host inner ∧
    Settings.ofDocument (.listening v) = .ok s ∧ s.web.listenAddress = v ∧
      s.address = .ok ⟨String.ofList inner, Text.digitsValue port⟩
  /-- A host without brackets at its ends and a port are read back from what they write, with
  brackets around the host and without. -/
  written : ∀ (host : String) (port : Nat), IsBare host.toList → port ≤ 65535 →
    v = host ++ ":" ++ Text.integerText port ∨ v = "[" ++ host ++ "]:" ++ Text.integerText port →
      ∃ s, Settings.ofDocument (.listening v) = .ok s ∧ s.address = .ok ⟨host, port⟩

/-- An address is taken by the settings and read again from them. -/
theorem Settings.address_of_isAddress {v : String} {host port : List Char}
    (h : Address.IsAddress v host port) :
    ∃ s, ofDocument (.listening v) = .ok s ∧ s.web.listenAddress = v ∧
      s.address = .ok ⟨String.ofList (Address.withoutBrackets host), Text.digitsValue port⟩ := by
  have hparse := Address.parse_of_isAddress h
  refine ⟨{ web := { listenAddress := v } }, ?_, rfl, hparse⟩
  rw [ofDocument_listening, hparse]

/-- Every text follows the rules. -/
theorem Address.listening_follows_rules (v : String) : Rules v where
  accepted := by
    constructor
    · rintro ⟨s, hs⟩
      rw [Settings.ofDocument_listening] at hs
      split at hs
      · next a ha => exact exists_isAddress_of_parse ha
      · cases hs
    · rintro ⟨host, port, h⟩
      obtain ⟨s, hs, -⟩ := Settings.address_of_isAddress h
      exact ⟨s, hs⟩
  refused h := by
    cases hparse : parse v with
    | ok a => exact absurd (exists_isAddress_of_parse hparse) h
    | error fault => exact ⟨fault, by rw [Settings.ofDocument_listening, hparse]⟩
  read host port h := by
    obtain ⟨s, hs, hv, haddress⟩ := Settings.address_of_isAddress h
    exact ⟨s, _, encloses_withoutBrackets host, hs, hv, haddress⟩
  written host port hbare hport hv := by
    -- With brackets or without, the host stands between what is taken off on either side.
    have hread {outer : List Char} (houter : Encloses outer host.toList)
        (hparts : v.toList = outer ++ ':' :: Text.decimalText port) :
        ∃ s, Settings.ofDocument (.listening v) = .ok s ∧ s.address = .ok ⟨host, port⟩ := by
      obtain ⟨s, hs, -, haddress⟩ :=
        Settings.address_of_isAddress (isAddress_decimalText hport hparts)
      rw [withoutBrackets_of_encloses houter, digitsValue_decimalText, String.ofList_toList]
        at haddress
      exact ⟨s, hs, haddress⟩
    have hport : (Text.integerText port).toList = Text.decimalText port := String.toList_ofList
    rcases hv with rfl | rfl
    · refine hread ⟨hbare, [], [], rfl, rfl, (List.append_nil _).symm⟩ ?_
      simp [String.toList_append, hport]
    · have houter : Encloses ('[' :: (host.toList ++ [']'])) host.toList :=
        ⟨hbare, ['['], [']'], rfl, rfl, rfl⟩
      refine hread houter ?_
      simp [String.toList_append, hport]

/-- Digits of another script, and a host with colons in brackets. -/
example : Address.parse "[::1]:٩٨٣٥" = .ok ⟨"::1", 9835⟩ := by decide +kernel

end GpuMetrics
