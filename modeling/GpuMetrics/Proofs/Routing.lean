import GpuMetrics.Proofs.Health
import GpuMetrics.Proofs.Setting
import GpuMetrics.Service.Basic
import Mathlib.Data.List.TakeWhile

/-!
# Which requests are shown the metrics

The server looks up the path of a request, and the path of a target that begins with a slash is what
stands in front of its first question mark or number sign, with the slashes that it begins with
counted as one (`pathOf_of_slash`). Such a target is its own path exactly if it has neither of the
two marks in it and begins with one slash only (`readPath_eq_iff`).

A request has a target only if its method is the one that is served, and the target is a word of it
(`words_of_targetOfLine`). So a path with a blank in it, or with a character that is no byte, is the
target of no request (`targetOf_ne`).

A request is answered with the metrics if its path is the telemetry path, and else without a look at
them (`Server.answer_of_eq`, `Server.answer_of_ne`). Settings accept every telemetry path that
begins with a slash, so a request for that path, if there can be one, is shown the metrics exactly
if the path is steady (`Service.answer_of_accepted`).
-/

namespace GpuMetrics

namespace Web

/-! ## The path of a target -/

/-- Whether a character goes on with the path that it stands in. -/
def isPathChar (c : Char) : Bool := c ≠ '?' && c ≠ '#'

/-- The path of a target that begins with a slash. -/
def readPath (target : List Char) : String :=
  String.ofList ((withOneSlash target).takeWhile isPathChar)

/-- A path that is read as it is written: no mark in it ends it, and it begins with one slash
only. -/
structure Steady (path : List Char) : Prop where
  /-- There is no question mark in it. -/
  noQuery : '?' ∉ path
  /-- There is no number sign in it. -/
  noFragment : '#' ∉ path
  /-- It does not begin with two slashes. -/
  oneSlash : ¬ ['/', '/'] <+: path

/-- The slashes that a target begins with are counted as one. -/
theorem withOneSlash_cons (r : List Char) :
    withOneSlash ('/' :: r) = '/' :: r.dropWhile (· = '/') := by
  cases r with
  | nil => rfl
  | cons c r =>
    by_cases hc : c = '/'
    · subst hc
      rfl
    · unfold withOneSlash
      split
      · next r' heq =>
        rw [List.cons.injEq, List.cons.injEq] at heq
        exact absurd heq.2.1 hc
      · rw [List.dropWhile_cons_of_neg (by simpa using hc)]

/-- What follows the slash is no slash. -/
theorem not_slash_cons_dropWhile (r s : List Char) : r.dropWhile (· = '/') ≠ '/' :: s := by
  intro h
  have hhead := List.head?_dropWhile_not (fun c => decide (c = '/')) r
  rw [h] at hhead
  simp at hhead

/-- There is no scheme in front of a slash. -/
theorem withoutScheme_cons (r : List Char) : withoutScheme ('/' :: r) = '/' :: r := by
  unfold withoutScheme Text.cutFirst
  rw [List.dropWhile_cons_of_pos (by decide)]
  cases r.dropWhile (· != ':') with
  | nil => rfl
  | cons c rest =>
    have hslash : Char.isAlpha '/' = false := by decide
    rw [List.takeWhile_cons_of_pos (by decide)]
    simp [hslash]

/-- The path of a target that begins with a slash names no host, and ends before the first question
mark or number sign. -/
theorem pathOf_of_slash (r : List Char) : pathOf ('/' :: r) = .ok (readPath ('/' :: r)) := by
  have hdrop : ('/' :: r.dropWhile (· = '/')).dropWhile (fun c => c.toNat ≤ 32) =
      '/' :: r.dropWhile (· = '/') := List.dropWhile_cons_of_neg (by decide)
  have hauthority : withoutAuthority ('/' :: r.dropWhile (· = '/')) =
      .ok ('/' :: r.dropWhile (· = '/')) := by
    unfold withoutAuthority
    split
    · next s heq =>
      rw [List.cons.injEq] at heq
      exact absurd heq.2 (not_slash_cons_dropWhile r s)
    · rfl
  unfold pathOf readPath
  simp only [withOneSlash_cons, hdrop, withoutScheme_cons, hauthority]
  rfl

/-- The slashes that a target begins with are one already, unless there are two. -/
theorem withOneSlash_eq_self_iff (r : List Char) :
    withOneSlash ('/' :: r) = '/' :: r ↔ ¬ ['/', '/'] <+: '/' :: r := by
  rw [withOneSlash_cons, List.cons.injEq, and_iff_right rfl, List.cons_prefix_cons,
    and_iff_right rfl]
  cases r with
  | nil => simp
  | cons c r =>
    rw [List.dropWhile_eq_self_iff, List.cons_prefix_cons]
    simp [eq_comm]

/-- A target that begins with a slash is its own path exactly if it is steady. -/
theorem readPath_eq_iff (r : List Char) :
    readPath ('/' :: r) = String.ofList ('/' :: r) ↔ Steady ('/' :: r) := by
  rw [readPath, String.ofList_inj]
  constructor
  · intro h
    -- A path is part of what is left of the target, so nothing of the target can be lost.
    have hpath := List.takeWhile_sublist (l := withOneSlash ('/' :: r)) isPathChar
    have hleft : (withOneSlash ('/' :: r)).Sublist ('/' :: r) := by
      rw [withOneSlash_cons]
      exact (List.dropWhile_sublist _).cons_cons '/'
    rw [h] at hpath
    have hwhole : withOneSlash ('/' :: r) = '/' :: r :=
      hleft.eq_of_length_le hpath.length_le
    rw [hwhole, List.takeWhile_eq_self_iff] at h
    refine ⟨fun hmem => ?_, fun hmem => ?_, (withOneSlash_eq_self_iff r).mp hwhole⟩
    · exact absurd (h _ hmem) (by decide)
    · exact absurd (h _ hmem) (by decide)
  · intro h
    rw [(withOneSlash_eq_self_iff r).mpr h.oneSlash, List.takeWhile_eq_self_iff]
    intro c hc
    have hquery : c ≠ '?' := fun heq => h.noQuery (heq ▸ hc)
    have hfragment : c ≠ '#' := fun heq => h.noFragment (heq ▸ hc)
    simp [isPathChar, hquery, hfragment]

/-! ## The target of a request -/

/-- What is read of a word in front of a blank is the whole word. -/
theorem wordsFrom_append {word s r : List Char} {c : Char} (hs : s.any Text.isBlank = false)
    (hc : Text.isBlank c = true) (hne : word ++ s ≠ []) :
    wordsFrom word (s ++ c :: r) = (word.reverse ++ s) :: wordsFrom [] r := by
  induction s generalizing word with
  | nil =>
    have hword : word.isEmpty = false := by simpa using hne
    rw [List.nil_append, wordsFrom, if_pos hc, hword, List.append_nil]
    rfl
  | cons d s ih =>
    rw [List.any_cons, Bool.or_eq_false_iff] at hs
    have hrest : d :: word ++ s ≠ [] := List.cons_ne_nil _ _
    rw [List.cons_append, wordsFrom, hs.1, if_neg Bool.false_ne_true, ih hs.2 hrest,
      List.reverse_cons, List.append_assoc]
    rfl

/-- A text without line feeds is its own line, unless carriage returns stand at its end. -/
theorem lineOf_eq_self {request : String} (hfeed : '\n' ∉ request.toList)
    (hend : request.toList.getLast? ≠ some '\r') : lineOf request = request := by
  have htake : request.toList.takeWhile (· ≠ '\n') = request.toList := by
    rw [List.takeWhile_eq_self_iff]
    intro c hc
    have hne : c ≠ '\n' := fun heq => hfeed (heq ▸ hc)
    simpa using hne
  have hdrop : request.toList.reverse.dropWhile (· = '\r') = request.toList.reverse := by
    rw [List.dropWhile_eq_self_iff]
    intro hlength hreturn
    have hhead : request.toList.reverse.head? = some '\r' := by
      rw [List.head?_eq_getElem?, List.getElem?_eq_getElem hlength]
      simpa using hreturn
    rw [List.head?_reverse] at hhead
    exact hend hhead
  rw [lineOf]
  simp only [htake, hdrop, List.reverse_reverse, String.ofList_toList]

/-- A request without line feeds is too long if there is no room for its line end. -/
theorem isTooLong_of_notMem {request : String} (hfeed : '\n' ∉ request.toList) :
    isTooLong request = decide (request.toList.length + 2 > mostLineBytes) := by
  have hdrop : request.toList.dropWhile (· != '\n') = [] := by
    rw [List.dropWhile_eq_nil_iff]
    intro c hc
    have hne : c ≠ '\n' := fun heq => hfeed (heq ▸ hc)
    simpa using hne
  rw [isTooLong, Text.cutFirst, hdrop]

/-- The request for a target without blanks is one for this target, unless it is too long. -/
theorem targetOf_requestLine {target : String} (hne : target ≠ "")
    (hblank : target.toList.any Text.isBlank = false)
    (hlength : target.toList.length + 15 ≤ mostLineBytes) :
    targetOf (requestLine target) = .ok target.toList := by
  have htext : (requestLine target).toList =
      servedMethod.toList ++ ' ' :: (target.toList ++ ' ' :: "HTTP/1.0".toList) := by
    simp only [requestLine, String.toList_append, List.append_assoc]
    rfl
  have hfeed : '\n' ∉ (requestLine target).toList := by
    rw [htext]
    intro hmem
    have htarget : '\n' ∉ target.toList := by
      intro h
      rw [List.any_eq_false] at hblank
      exact hblank _ h (by decide)
    simp [servedMethod, htarget] at hmem
  have hend : (requestLine target).toList.getLast? ≠ some '\r' := by
    rw [htext]
    simp [List.getLast?_append, List.getLast?_cons]
  have hshort : isTooLong (requestLine target) = false := by
    have hmethod : servedMethod.toList.length = 3 := rfl
    have hversion : "HTTP/1.0".toList.length = 8 := rfl
    rw [isTooLong_of_notMem hfeed, htext, decide_eq_false_iff_not, List.length_append,
      List.length_cons, List.length_append, List.length_cons, hmethod, hversion]
    omega
  -- Neither the method nor the target has a blank in it, so the line falls into its three parts.
  have hwords : wordsOf (requestLine target).toList =
      [servedMethod.toList, target.toList, "HTTP/1.0".toList] := by
    have hmethod : servedMethod.toList.any Text.isBlank = false := by decide
    have htarget : [] ++ target.toList ≠ [] := by simpa using hne
    rw [htext, wordsOf, wordsFrom_append hmethod (by decide) (by decide),
      wordsFrom_append hblank (by decide) htarget]
    rfl
  rw [targetOf, if_neg (by simp [hshort]), lineOf_eq_self hfeed hend, targetOfLine, hwords]
  rfl

/-- The words of a text have no blanks, and no characters but the text's. -/
theorem mem_of_mem_wordsFrom {word s w : List Char} (hword : ∀ c ∈ word, Text.isBlank c = false)
    (h : w ∈ wordsFrom word s) : ∀ c ∈ w, Text.isBlank c = false ∧ (c ∈ word ∨ c ∈ s) := by
  induction s generalizing word with
  | nil =>
    rw [wordsFrom] at h
    split at h
    · cases h
    · rw [List.mem_singleton.mp h]
      exact fun c hc => ⟨hword c (List.mem_reverse.mp hc), .inl (List.mem_reverse.mp hc)⟩
  | cons d r ih =>
    -- What is left after a blank begins with no word in hand.
    have hnext (h : w ∈ wordsFrom [] r) (c : Char) (hc : c ∈ w) :
        Text.isBlank c = false ∧ (c ∈ word ∨ c ∈ d :: r) := by
      obtain ⟨hblank, hmem⟩ := ih (List.forall_mem_nil _) h c hc
      exact ⟨hblank, .inr (List.mem_cons_of_mem d (hmem.resolve_left List.not_mem_nil))⟩
    rw [wordsFrom] at h
    split at h
    · split at h
      · exact hnext h
      · obtain rfl | h := List.mem_cons.mp h
        · exact fun c hc => ⟨hword c (List.mem_reverse.mp hc), .inl (List.mem_reverse.mp hc)⟩
        · exact hnext h
    · next hd =>
      intro c hc
      have hword' : ∀ c ∈ d :: word, Text.isBlank c = false :=
        List.forall_mem_cons.mpr ⟨Bool.not_eq_true _ ▸ hd, hword⟩
      obtain ⟨hblank, hmem⟩ := ih hword' h c hc
      obtain hmem | hmem := hmem
      · obtain rfl | hmem := List.mem_cons.mp hmem
        · exact ⟨hblank, .inr List.mem_cons_self⟩
        · exact ⟨hblank, .inl hmem⟩
      · exact ⟨hblank, .inr (List.mem_cons_of_mem d hmem)⟩

/-- The target of a line is a word of it, and the first word is the method that is served. -/
theorem words_of_targetOfLine {line : String} {target : List Char}
    (h : targetOfLine line = .ok target) :
    ∃ rest, wordsOf line.toList = servedMethod.toList :: target :: rest := by
  have hmethod {fault : String → LineFault} {method target' : List Char}
      (h : (checkMethod fault method).map (fun _ => target') = .ok target) :
      method = servedMethod.toList ∧ target' = target := by
    unfold checkMethod at h
    simp only at h
    split at h
    · next heq =>
      cases h
      exact ⟨by rw [← heq, String.toList_ofList], rfl⟩
    · cases h
  unfold targetOfLine at h
  split at h
  · cases h
  · cases h
  · next method target' hwords =>
    obtain ⟨rfl, rfl⟩ := hmethod h
    exact ⟨[], hwords⟩
  · next method target' version hwords =>
    cases hversion : checkVersion version with
    | error e => rw [hversion] at h; cases h
    | ok _ =>
      rw [hversion] at h
      obtain ⟨rfl, rfl⟩ := hmethod h
      exact ⟨[version], hwords⟩
  · -- With more than three words there is a fault, whatever is thought of the version.
    next rest _ _ =>
    cases hversion : checkVersion (rest.getLast?.getD []) with
    | error e => rw [hversion] at h; cases h
    | ok _ => rw [hversion] at h; cases h

/-- The line of a request has no characters but the request's. -/
theorem mem_of_mem_lineOf {request : String} {c : Char} (h : c ∈ (lineOf request).toList) :
    c ∈ request.toList := by
  rw [lineOf, String.toList_ofList, List.mem_reverse] at h
  exact (List.takeWhile_subset _) (List.mem_reverse.mp ((List.dropWhile_subset _) h))

/-- A target is a word of a request with the method that is served: it has no blanks, and no
characters but the request's. -/
theorem mem_of_targetOf {request : String} {target : List Char}
    (h : targetOf request = .ok target) :
    ∀ c ∈ target, Text.isBlank c = false ∧ c ∈ request.toList := by
  intro c hc
  unfold targetOf at h
  split at h
  · cases h
  · obtain ⟨rest, hwords⟩ := words_of_targetOfLine h
    have hword : target ∈ wordsFrom [] (lineOf request).toList := by
      rw [← wordsOf, hwords]
      exact List.mem_cons_of_mem _ List.mem_cons_self
    obtain ⟨hblank, hmem⟩ := mem_of_mem_wordsFrom (List.forall_mem_nil _) hword c hc
    exact ⟨hblank, mem_of_mem_lineOf (hmem.resolve_left List.not_mem_nil)⟩

/-- A path with a blank in it, or with a character that is no byte, is the target of no request. -/
theorem targetOf_ne {request : String} {path : List Char}
    (hbytes : ∀ c ∈ request.toList, c.toNat < 256)
    (hpath : ∃ c ∈ path, Text.isBlank c = true ∨ 256 ≤ c.toNat) : targetOf request ≠ .ok path := by
  intro h
  obtain ⟨c, hc, hodd⟩ := hpath
  obtain ⟨hblank, hmem⟩ := mem_of_targetOf h c hc
  obtain hodd | hodd := hodd
  · rw [hblank] at hodd
    cases hodd
  · exact absurd (hbytes c hmem) (not_lt.mpr hodd)

/-- The path of a request, if it has one. -/
def pathOf? (request : String) : Option String :=
  match targetOf request with
  | .ok target => (pathOf target).toOption
  | .error _ => none

/-! ## Answers -/

namespace Server

variable {σ : Type} (s : Server σ)

/-- Whether a request asks for the metrics: it has a path, which is theirs. -/
def isAsked (request : String) : Bool :=
  match pathOf? request with
  | some path => s.telemetryPath = path
  | none => false

/-- What the metrics, or the fault in their place, are answered with. -/
def metricsAnswer : Except Fault String → Response
  | .ok text => metricsResponse text
  | .error _ => failureResponse

/-- An answer that is logged leaves the rest of the site as it is. -/
theorem reply_on (line : String) (r : Response) (site : Site σ) :
    ((s.reply line r).on site).1 = .ok r ∧
      ((s.reply line r).on site).2.unlogged = site.unlogged := by
  rw [reply, Session.on_bind_ok _ (Session.on_note _ _ _ _)]
  exact ⟨rfl, rfl⟩

/-- A refusal only logs. -/
theorem refuse_unlogged (line : String) (e : LineFault) (site : Site σ) :
    ((s.refuse line e).on site).2.unlogged = site.unlogged := by
  unfold refuse
  split
  · rfl
  · next r _ =>
    rw [Session.on_bind_ok _ (Session.on_note _ _ _ _)]
    exact Session.view_bind (s.reply (e.loggedLine line) (refusalResponse r))
      (fun _ => Session.keeps_pure _) _

/-- The metrics are looked at once, and but for the log nothing else happens. -/
theorem serveMetrics_on (site : Site σ) :
    (s.serveMetrics.on site).1 = .ok (metricsAnswer (s.metrics.on site).1) ∧
      (s.serveMetrics.on site).2.unlogged = (s.metrics.on site).2.unlogged := by
  rw [serveMetrics, Session.on_bind, Session.on_attempt]
  cases (s.metrics.on site).1 with
  | ok text => exact ⟨rfl, rfl⟩
  | error e => exact ⟨rfl, rfl⟩

/-- The answer for a path that is not the one of the metrics. -/
def otherAnswer (path : String) : Except AnswerFault Response :=
  if path = "/" then landingResponse s.telemetryPath else .ok notFoundResponse

/-- The telemetry path is answered with the metrics. -/
theorem respond_of_eq {path : String} (h : s.telemetryPath = path) (site : Site σ) :
    ((s.respond path).on site).1 = .ok (.ok (metricsAnswer (s.metrics.on site).1)) ∧
      ((s.respond path).on site).2.unlogged = (s.metrics.on site).2.unlogged := by
  obtain ⟨hresult, hsite⟩ := s.serveMetrics_on site
  rw [respond, if_pos h, Session.on_bind_ok _ (Prod.ext hresult rfl)]
  exact ⟨rfl, hsite⟩

/-- Another path is answered without a look at the metrics. -/
theorem respond_of_ne {path : String} (h : s.telemetryPath ≠ path) (site : Site σ) :
    (s.respond path).on site = (.ok (s.otherAnswer path), site) := by
  rw [respond, if_neg h, otherAnswer]
  split <;> rfl

/-- The answer to a request that has a path is the one for the path, which is logged. -/
theorem answer_of_respond {request path : String} (h : pathOf? request = some path)
    {site after : Site σ} {r : Except AnswerFault Response}
    (hrespond : (s.respond path).on site = (.ok r, after)) :
    ((s.answer request).on site).1 = .ok r ∧
      ((s.answer request).on site).2.unlogged = after.unlogged := by
  unfold pathOf? at h
  split at h
  · next target htarget =>
    have hpath : pathOf target = .ok path := by
      cases hpath : pathOf target with
      | error e =>
        rw [hpath] at h
        cases h
      | ok found =>
        rw [hpath] at h
        cases h
        rfl
    unfold answer
    simp only [htarget, hpath]
    rw [Session.on_bind_ok _ hrespond]
    cases r with
    | error e => exact ⟨rfl, rfl⟩
    | ok response =>
      obtain ⟨hreply, hsite⟩ := s.reply_on (lineOf request) response after
      simp only
      rw [Session.on_bind_ok _ (Prod.ext hreply rfl)]
      exact ⟨rfl, hsite⟩
  · cases h

/-- A request without a path is answered without a look at the metrics. -/
theorem answer_of_none {request : String} (h : pathOf? request = none) (site : Site σ) :
    ((s.answer request).on site).2.unlogged = site.unlogged := by
  unfold pathOf? at h
  unfold answer
  split at h
  · next target htarget =>
    cases hpath : pathOf target with
    | ok path =>
      rw [hpath] at h
      cases h
    | error e =>
      simp only [htarget, hpath]
      rfl
  · next e htarget =>
    simp only [htarget]
    exact s.refuse_unlogged _ _ site

/-- A request for the telemetry path is answered with the metrics. -/
theorem answer_of_eq {request path : String} (h : pathOf? request = some path)
    (hpath : s.telemetryPath = path) (site : Site σ) :
    ((s.answer request).on site).1 = .ok (.ok (metricsAnswer (s.metrics.on site).1)) ∧
      ((s.answer request).on site).2.unlogged = (s.metrics.on site).2.unlogged := by
  obtain ⟨hresult, hsite⟩ := s.respond_of_eq hpath site
  obtain ⟨hanswer, hafter⟩ := s.answer_of_respond h (Prod.ext hresult rfl)
  exact ⟨hanswer, hafter.trans hsite⟩

/-- A request for another path is answered without a look at the metrics. -/
theorem answer_of_ne {request path : String} (h : pathOf? request = some path)
    (hpath : s.telemetryPath ≠ path) (site : Site σ) :
    ((s.answer request).on site).1 = .ok (s.otherAnswer path) ∧
      ((s.answer request).on site).2.unlogged = site.unlogged :=
  s.answer_of_respond h (s.respond_of_ne hpath site)

/-- But for the log, a request does to the site what the metrics do if it asks for them, and else
nothing. -/
theorem answer_unlogged (request : String) (site : Site σ) :
    ((s.answer request).on site).2.unlogged =
      if s.isAsked request then (s.metrics.on site).2.unlogged else site.unlogged := by
  unfold isAsked
  cases h : pathOf? request with
  | none => exact s.answer_of_none h site
  | some path =>
    by_cases hpath : s.telemetryPath = path
    · simp only [hpath, decide_true, if_true]
      exact (s.answer_of_eq h hpath site).2
    · simp only [hpath, decide_false, Bool.false_eq_true, if_false]
      exact (s.answer_of_ne h hpath site).2

end Server

end Web

open Web

/-! ## The telemetry path of accepted settings -/

/-- The telemetry path of settings that come from a document begins with a slash. -/
theorem Settings.telemetryPath_of_ofDocument {d : Document} {s : Settings} {path : String}
    (h : ofDocument d = .ok s) (hpath : s.web.telemetryPath = path) :
    ∃ r, path.toList = '/' :: r := by
  have hread : checkPath s.web.telemetryPath = .ok s.web.telemetryPath :=
    Settings.accepted_of_ofDocument h .telemetryPath
  rw [hpath, checkPath, Text.Wording.outline_coe] at hread
  split at hread
  · next hslash =>
    rw [Text.startsWith, List.isPrefixOf_iff_prefix] at hslash
    obtain ⟨r, hr⟩ := hslash
    exact ⟨r, hr.symm⟩
  · cases hread

/-- A request whose method is served and whose target is the telemetry path is answered with the
metrics if that path is steady. If it is not, the path that is looked up is another one, and the
answer is the page with the link or a refusal, without a look at the metrics. Nothing is said of a
path that `targetOf_ne` excludes, which no request can name. -/
theorem Service.answer_of_accepted {σ : Type} {d : Document} {service : Service}
    {path request : String} (h : Settings.ofDocument d = .ok service.settings)
    (hpath : service.settings.web.telemetryPath = path)
    (hrequest : targetOf request = .ok path.toList) (runner : Runner σ) (site : Site σ) :
    (Steady path.toList →
      (((service.server runner).answer request).on site).1 =
        .ok (.ok (Server.metricsAnswer ((service.server runner).metrics.on site).1))) ∧
      (¬ Steady path.toList →
        (((service.server runner).answer request).on site).1 =
            .ok ((service.server runner).otherAnswer (readPath path.toList)) ∧
          (((service.server runner).answer request).on site).2.unlogged = site.unlogged) := by
  obtain ⟨r, hr⟩ := Settings.telemetryPath_of_ofDocument h hpath
  have hread : pathOf? request = some (readPath path.toList) := by
    rw [pathOf?, hrequest, hr]
    simp only [pathOf_of_slash]
    rfl
  have hsteady : readPath path.toList = path ↔ Steady path.toList := by
    have hiff := readPath_eq_iff r
    rwa [← hr, String.ofList_toList] at hiff
  constructor
  · intro hs
    rw [hsteady.mpr hs] at hread
    exact ((service.server runner).answer_of_eq hread hpath site).1
  · intro hs
    have hne : (service.server runner).telemetryPath ≠ readPath path.toList := by
      intro heq
      have hsame : path = readPath path.toList := by
        have hwording := hpath.symm.trans heq
        exact congrArg Text.Wording.head hwording
      exact hs (hsteady.mp hsame.symm)
    exact (service.server runner).answer_of_ne hread hne site

/-- A document whose telemetry path has a question mark in it. -/
def queryPathDocument : Document :=
  .ofFields [("web", .ofFields [("telemetry_path", .text "/metrics?all")])]

/-- A service with that telemetry path. -/
def queryPathService : Service :=
  ⟨{ web := { telemetryPath := "/metrics?all" } }, Collector.defaultCollector, .empty⟩

/-- A request for a telemetry path with a question mark in it is refused. -/
theorem Service.answer_queryPath :
    Settings.ofDocument queryPathDocument = .ok queryPathService.settings ∧
      targetOf (requestLine "/metrics?all") = .ok "/metrics?all".toList ∧
      ¬ Steady "/metrics?all".toList ∧
      (((queryPathService.server (.printing 0 "")).answer (requestLine "/metrics?all")).on
        (Site.initial ())).1 = .ok (.ok notFoundResponse) := by
  have hdocument : Settings.ofDocument queryPathDocument = .ok queryPathService.settings := rfl
  have hpath : queryPathService.settings.web.telemetryPath = "/metrics?all" := rfl
  have hrequest : targetOf (requestLine "/metrics?all") = .ok "/metrics?all".toList :=
    targetOf_requestLine (by decide) (by decide) (by decide)
  have hsteady : ¬ Steady "/metrics?all".toList := fun hs => hs.noQuery (by decide)
  have hanswer := (answer_of_accepted hdocument hpath hrequest (.printing 0 "")
    (Site.initial ())).2 hsteady
  exact ⟨hdocument, hrequest, hsteady, hanswer.1⟩

end GpuMetrics
