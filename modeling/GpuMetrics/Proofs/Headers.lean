import GpuMetrics.Proofs.Answers
import GpuMetrics.Proofs.Harvest
import GpuMetrics.Proofs.Trimming

/-!
# Headers of later answers

A collector learns the headers when it is built. The tool prints headers above each later answer as
well, and each cell of a table carries its own, but nothing that a scrape exports depends on them:
answers with the same lines below headers of the same number are scraped alike
(`Collector.scrape_of_headers`).

The headers do take part in the reading of an answer, since the whole answer is trimmed and its
first line is counted. But trimming takes no comma from it, and takes from the lines below only what
it would take below any other headers (`Table.linesOf_answer`). So the two answers are tables or
unreadable alike, and their tables are the same but for the headers in the cells
(`Table.parse_unheaded`). A scrape looks at the field and the text of a cell only
(`Collector.takeRow_unheaded`).
-/

namespace GpuMetrics

/-! ## Rows without headers -/

/-- A row without the headers in its cells. -/
def Row.unheaded (row : Row) : Row := ⟨row.cells.map fun c => { c with returnedField := "" }⟩

/-- The rows of a table without the headers in their cells. -/
def Table.unheaded (t : Table) : List Row := t.rows.map Row.unheaded

/-- The text in the cell of a field does not depend on headers. -/
theorem Row.rawValue_unheaded (row : Row) (field fallback : String) :
    row.unheaded.rawValue field fallback = row.rawValue field fallback := by
  let withoutHeader (c : Cell) : Cell := { c with returnedField := "" }
  have hcells : row.unheaded.cells.map (fun c => (c.queryField, c)) =
      Keyed.mapValues withoutHeader (row.cells.map fun c => (c.queryField, c)) := by
    simp [unheaded, Keyed.mapValues, withoutHeader]
  have hget : Keyed.get? row.unheaded.byField field =
      (Keyed.get? row.byField field).map withoutHeader := by
    rw [byField, hcells, Keyed.ofList_mapValues, Keyed.get?_mapValues, byField]
  unfold rawValue
  rw [hget]
  cases Keyed.get? row.byField field <;> rfl

namespace Table

/-! ## Lines below headers -/

/-- The answer with a first line and further lines. -/
def answer (header : String) (lines : List String) : String := Text.joined "\n" (header :: lines)

/-- The lines below the first one that are left when the answer is trimmed. -/
def linesBelow (lines : List String) : List (List Char) :=
  let below := (Text.joined "\n" lines).toList
  if Text.allBlank below then [] else Text.pieces '\n' (Text.trimRight below)

/-- Whether a text can stand above the lines of an answer: it is a line, and not a blank one. -/
structure IsHeader (header : String) : Prop where
  /-- There is no line end in it. -/
  isLine : '\n' ∉ header.toList
  /-- Something in it is not blank. -/
  isVisible : Text.allBlank header.toList = false

/-- The characters of an answer: those of its first line, and behind a line end the others. -/
theorem toList_answer (header : String) (lines : List String) :
    (answer header lines).toList = header.toList ++
      if lines = [] then [] else '\n' :: (Text.joined "\n" lines).toList := by
  cases lines with
  | nil => simp [answer, Text.joined]
  | cons l rest =>
    rw [if_neg (List.cons_ne_nil l rest), answer, Text.joined, Text.joined,
      String.toList_intercalate, String.toList_intercalate]
    simp [List.intercalate]

/-- The lines of an answer are its first line, as far as it is not trimmed, and lines that do not
depend on it. -/
theorem linesOf_answer {header : String} (h : IsHeader header) (lines : List String) :
    ∃ first, linesOf (answer header lines) = first :: linesBelow lines ∧
      first.count ',' = header.toList.count ',' ∧
      Text.trim (answer header lines).toList ≠ [] := by
  have hleft : Text.trim (answer header lines).toList =
      Text.trimRight (Text.trimLeft header.toList ++
        if lines = [] then [] else '\n' :: (Text.joined "\n" lines).toList) := by
    rw [toList_answer, Text.trim, Text.trimLeft_append h.isVisible]
  have hline : '\n' ∉ Text.trimLeft header.toList := fun hmem =>
    h.isLine ((List.dropWhile_sublist _).subset hmem)
  rw [linesOf, hleft, linesBelow]
  by_cases hblank : Text.allBlank (Text.joined "\n" lines).toList = true
  · -- Blank lines go with the blanks behind the headers, which are all that is left.
    have hbelow : Text.allBlank
        (if lines = [] then [] else '\n' :: (Text.joined "\n" lines).toList) = true := by
      split
      · rfl
      · exact hblank
    have htrim : Text.trimRight (Text.trimLeft header.toList) = Text.trim header.toList := rfl
    have hsome : Text.trim header.toList ≠ [] := by
      intro hnil
      obtain ⟨a, b, ha, hb, hs⟩ := Text.exists_trim header.toList
      rw [hnil, List.append_nil] at hs
      have hall := h.isVisible
      rw [hs, Text.allBlank_append, ha, hb] at hall
      cases hall
    have hmem : '\n' ∉ Text.trim header.toList := fun hmem => by
      obtain ⟨a, b, -, -, hs⟩ := Text.exists_trim header.toList
      exact h.isLine (hs ▸ List.mem_append_left b (List.mem_append_right a hmem))
    rw [Text.trimRight_append_of_allBlank hbelow, htrim, Text.pieces_of_notMem hmem]
    exact ⟨_, by simp [hblank], Text.count_trim (by decide) _, hsome⟩
  · rw [Bool.not_eq_true] at hblank
    have hlines : lines ≠ [] := by
      rintro rfl
      cases hblank
    have hbelow : Text.trimRight ('\n' :: (Text.joined "\n" lines).toList) =
        '\n' :: Text.trimRight (Text.joined "\n" lines).toList :=
      Text.trimRight_append hblank ['\n']
    have hvisible : Text.allBlank ('\n' :: (Text.joined "\n" lines).toList) = false := hblank
    rw [if_neg hlines, Text.trimRight_append hvisible, hbelow, Text.pieces_append_cons hline]
    exact ⟨_, by simp [hblank], Text.count_trimLeft (by decide) _, by simp⟩

/-! ## Tables below headers -/

section Unheaded

variable {fields headers headers' : List String}

/-- Two rows of the same texts differ in their headers only. -/
theorem rowOf_unheaded (hheaders : headers.length = fields.length)
    (hheaders' : headers'.length = fields.length) {texts : List String}
    (htexts : texts.length = fields.length) :
    (rowOf fields headers texts).unheaded = (rowOf fields headers' texts).unheaded := by
  have hcells (headers : List String) (hheaders : headers.length = fields.length) :
      (rowOf fields headers texts).unheaded =
        ⟨(fields.zip texts).map fun p => ⟨p.1, "", p.2⟩⟩ := by
    have hsnd : (headers.zip texts).map Prod.snd = texts :=
      List.map_snd_zip (by rw [htexts, hheaders])
    rw [← congrArg (fields.zip ·) hsnd, List.zip_map_right, List.map_map, Row.unheaded, rowOf]
    simp [Function.comp_def]
  rw [hcells headers hheaders, hcells headers' hheaders']

/-- Lines are rows below some headers as they are below others, but for the headers. -/
theorem rowsFrom_unheaded (hheaders : headers.length = fields.length)
    (hheaders' : headers'.length = fields.length) (i : Nat) (lines : List (List Char)) :
    (rowsFrom fields headers i lines).map (List.map Row.unheaded) =
      (rowsFrom fields headers' i lines).map (List.map Row.unheaded) := by
  induction lines generalizing i with
  | nil => rfl
  | cons line rest ih =>
    rw [rowsFrom, rowsFrom]
    by_cases hline : (cellsOfLine line).length = fields.length
    · have hrest := ih (i + 1)
      have hrow := rowOf_unheaded hheaders hheaders' hline
      simp only [if_pos hline]
      cases hrows : rowsFrom fields headers (i + 1) rest <;>
        cases hrows' : rowsFrom fields headers' (i + 1) rest <;>
        rw [hrows, hrows'] at hrest <;>
        simp_all [Except.map]
    · rw [if_neg hline, if_neg hline]

/-- Answers with the same lines below headers of the same number are the same tables, but for the
headers, or they are unreadable for the same reason. -/
theorem parse_unheaded {header header' : String} (h : IsHeader header) (h' : IsHeader header')
    (hcount : header.toList.count ',' = header'.toList.count ',') (lines fields : List String) :
    (parse (answer header lines) fields).map unheaded =
      (parse (answer header' lines) fields).map unheaded := by
  obtain ⟨first, hlines, hfirst, hblank⟩ := linesOf_answer h lines
  obtain ⟨first', hlines', hfirst', hblank'⟩ := linesOf_answer h' lines
  have hcommas : first.count ',' = first'.count ',' := by rw [hfirst, hfirst', hcount]
  by_cases hfits : Fits fields first
  · have hfits' : Fits fields first' := by rwa [Fits, ← hcommas]
    have hrows := rowsFrom_unheaded ((length_cellsOfLine first).trans hfits)
      ((length_cellsOfLine first').trans hfits') 0 (linesBelow lines)
    rw [parse_of_fits hblank hlines hfits, parse_of_fits hblank' hlines' hfits']
    -- Both sides are a map over the rows, of which only those without headers are looked at.
    have hmap (headers : List String) (r : Except Mismatch (List Row)) :
        (r.map fun rows => (⟨fields, headers, rows⟩ : Table)).map unheaded =
          r.map (List.map Row.unheaded) := by
      cases r <;> rfl
    rw [hmap, hmap, hrows]
  · have hfits' : ¬ Fits fields first' := by rwa [Fits, ← hcommas]
    rw [parse_of_header hblank hlines hfits, parse_of_header hblank' hlines' hfits', hcommas]

end Unheaded

end Table

/-! ## Scrapes below headers -/

namespace Collector

variable (c : Collector)

/-- A scrape takes in a cell as it takes in the cell without its header. -/
theorem takeCell_unheaded (uuid : String) (h : Harvest) (cell : Cell) :
    c.takeCell uuid h { cell with returnedField := "" } = c.takeCell uuid h cell := by
  have hrecord (e : Reading.Fault) :
      c.cellRecord { cell with returnedField := "" } e = c.cellRecord cell e := rfl
  simp only [takeCell, hrecord]

/-- A scrape takes in a row as it takes in the row without headers. -/
theorem takeRow_unheaded (h : Harvest) (row : Row) :
    c.takeRow h row.unheaded = c.takeRow h row := by
  have hdevice : deviceUuid row.unheaded = deviceUuid row := by
    rw [deviceUuid, deviceUuid, Row.rawValue_unheaded]
  have hlabels : infoSampleLabels row.unheaded = infoSampleLabels row := by
    simp only [infoSampleLabels, Row.rawValue_unheaded, hdevice]
  simp only [takeRow]
  rw [hdevice, hlabels, Row.unheaded, List.foldl_map]
  simp only [takeCell_unheaded]

/-- A table gives what its rows give without their headers. -/
theorem harvest_unheaded (info : Metric.Family) {t t' : Table} (h : t.unheaded = t'.unheaded) :
    c.harvest info t = c.harvest info t' := by
  have hrows (t : Table) : c.harvest info t =
      t.unheaded.foldl c.takeRow ⟨info, c.fieldFamilies, []⟩ := by
    rw [Table.unheaded, List.foldl_map, harvest]
    simp only [takeRow_unheaded]
  rw [hrows t, hrows t', h]

variable {σ σ' : Type} {c} {runner : Runner σ} {runner' : Runner σ'} {site : Site σ}
  {site' : Site σ'}

/-- A scrape that finds a table leaves the same as one that finds the table with other headers. -/
theorem scrape_of_unheaded (hhealth : site.health = site'.health) {t t' : Table}
    (h : c.finding (runner c.call site.surroundings).1.outcome = .table t)
    (h' : c.finding (runner' c.call site'.surroundings).1.outcome = .table t')
    (ht : t.unheaded = t'.unheaded) :
    ((c.scrape runner).on site).1 = ((c.scrape runner').on site').1 ∧
      ((c.scrape runner).on site).2.health = ((c.scrape runner').on site').2.health := by
  rw [scrape_of_table c runner site h, scrape_of_table c runner' site' h',
    c.harvest_unheaded c.emptyInfo ht, hhealth]
  exact ⟨rfl, rfl⟩

/-- A scrape that cannot read an answer leaves the same as any other such scrape. -/
theorem scrape_of_unreadable (hhealth : site.health = site'.health) {m m' : Table.Mismatch}
    {result result' : RunResult}
    (h : c.finding (runner c.call site.surroundings).1.outcome =
      .failure (c.unreadable result m))
    (h' : c.finding (runner' c.call site'.surroundings).1.outcome =
      .failure (c.unreadable result' m')) :
    ((c.scrape runner).on site).1 = ((c.scrape runner').on site').1 ∧
      ((c.scrape runner).on site).2.health = ((c.scrape runner').on site').2.health := by
  -- The run itself ended well, so no listener is told.
  have hreaction (result : RunResult) (m : Table.Mismatch) :
      c.reaction? (c.unreadable result m) = none := rfl
  have hafter : (c.failed (c.unreadable result m) (c.queried runner site)).health =
      (c.failed (c.unreadable result' m') (c.queried runner' site')).health := by
    show (⟨_, _, site.health.failedScrapes + 1⟩ : Health) =
      ⟨_, _, site'.health.failedScrapes + 1⟩
    rw [hhealth]
    rfl
  rw [scrape_of_failure c runner site h, scrape_of_failure c runner' site' h', hreaction,
    hreaction, hafter]
  exact ⟨rfl, rfl⟩

/-- Two answers with the same lines below headers of the same number are scraped alike: whatever
the headers say, the families are the same, and so are the exit code, the state and the number of
failures that are left. -/
theorem scrape_of_headers (c : Collector) (hhealth : site.health = site'.health)
    {result result' : RunResult}
    (hreply : (runner c.call site.surroundings).1.outcome = .ok result)
    (hreply' : (runner' c.call site'.surroundings).1.outcome = .ok result')
    (hcode : result.exitCode = 0) (hcode' : result'.exitCode = 0) {header header' : String}
    (hheader : Table.IsHeader header) (hheader' : Table.IsHeader header')
    (hcount : header.toList.count ',' = header'.toList.count ',') {lines : List String}
    (hstdout : result.stdout = Table.answer header lines)
    (hstdout' : result'.stdout = Table.answer header' lines) :
    ((c.scrape runner).on site).1 = ((c.scrape runner').on site').1 ∧
      ((c.scrape runner).on site).2.health = ((c.scrape runner').on site').2.health := by
  have hparse := Table.parse_unheaded hheader hheader' hcount lines c.queryFields
  rw [← hstdout, ← hstdout'] at hparse
  -- The outputs are read alike, so either both are tables or neither is.
  cases ht : Table.parse result.stdout c.queryFields with
  | ok t =>
    have hfound := finding_of_parse hreply hcode ht
    cases ht' : Table.parse result'.stdout c.queryFields with
    | ok t' =>
      rw [ht, ht'] at hparse
      have hfound' := finding_of_parse hreply' hcode' ht'
      exact scrape_of_unheaded hhealth hfound hfound' (Except.ok.inj hparse)
    | error m' =>
      rw [ht, ht'] at hparse
      cases hparse
  | error m =>
    have hfound := finding_of_mismatch hreply hcode ht
    cases ht' : Table.parse result'.stdout c.queryFields with
    | ok t' =>
      rw [ht, ht'] at hparse
      cases hparse
    | error m' =>
      have hfound' := finding_of_mismatch hreply' hcode' ht'
      exact scrape_of_unreadable hhealth hfound hfound'

/-- The headers of the required fields as the tool prints them. -/
def plainHeader : String := Text.joined ", " sixFields

/-- As many other headers, with blanks around them, of which one is empty and the others have
units. -/
def strangeHeader : String := " uuid [W],, a [%], b [MiB], c [us], d [MHz]\t"

/-- A device below headers. -/
def deviceBelow (header : String) : String :=
  Table.answer header ["GPU-1a, T4, N/A, N/A, 90.04, 535"]

/-- A device is scraped alike below the headers that its collector knows and below others. -/
theorem scrape_below_strangeHeader :
    Table.IsHeader plainHeader ∧ Table.IsHeader strangeHeader ∧
      plainHeader.toList.count ',' = strangeHeader.toList.count ',' ∧
      ((deviceCollector.scrape (.printing 0 (deviceBelow plainHeader))).on (Site.initial ())).1 =
        ((deviceCollector.scrape (.printing 0 (deviceBelow strangeHeader))).on
          (Site.initial ())).1 ∧
      ((deviceCollector.scrape (.printing 0 (deviceBelow plainHeader))).on
          (Site.initial ())).2.health =
        ((deviceCollector.scrape (.printing 0 (deviceBelow strangeHeader))).on
          (Site.initial ())).2.health := by
  have hplain : Table.IsHeader plainHeader := ⟨by decide, by decide⟩
  have hstrange : Table.IsHeader strangeHeader := ⟨by decide, by decide⟩
  have hcount : plainHeader.toList.count ',' = strangeHeader.toList.count ',' := by decide
  have hreply (header : String) : (Runner.printing 0 (deviceBelow header) deviceCollector.call
      (Site.initial ()).surroundings).1.outcome =
        .ok ⟨deviceCollector.call.command, 0, deviceBelow header, ""⟩ := rfl
  exact ⟨hplain, hstrange, hcount, scrape_of_headers deviceCollector rfl (hreply plainHeader)
    (hreply strangeHeader) rfl rfl hplain hstrange hcount rfl rfl⟩

end Collector

end GpuMetrics
