import GpuMetrics.Proofs.Answers
import GpuMetrics.Proofs.Trimming

/-!
# Reading back a table that was written

A table is written line by line. The cells of a line stand between commas, each with blanks of its
own on both sides, and the lines stand between line ends of one kind or another, with further blanks
around all of them (`Layout`). What a text says are its lines, cut at the commas, with every piece
trimmed (`grid`). Blanks at the end of a line belong to its last cell, so a carriage return in front
of a line feed does not change what a text says.

Trimming the whole text could take away an empty cell only if it made up its line, since no trimming
goes past a comma. So with two cells or more in each line nothing is lost (`grid_trim`), and any
layout of a table with two columns or more is read back as the table (`parse_render`).
-/

namespace GpuMetrics

namespace Table

/-! ## What a line says -/

/-- A comma cuts a line into the cells before it and the cells behind it. -/
theorem cellsOfLine_append (s r : List Char) :
    cellsOfLine (s ++ ',' :: r) = cellsOfLine s ++ cellsOfLine r := by
  rw [cellsOfLine, Text.pieces_append, List.map_append]
  rfl

/-- A line without a comma is one cell. -/
theorem cellsOfLine_of_notMem {line : List Char} (h : ',' ∉ line) :
    cellsOfLine line = [String.ofList (Text.trim line)] := by
  rw [cellsOfLine, Text.pieces_of_notMem h]
  rfl

/-- A line with two cells or more has a comma. -/
theorem comma_mem_of_two_le {line : List Char} (h : 2 ≤ (cellsOfLine line).length) :
    ',' ∈ line := by
  rw [length_cellsOfLine] at h
  have hcount : 0 < line.count ',' := by omega
  exact List.count_pos_iff.mp hcount

/-- Blanks at the end of a line belong to its last cell, and are trimmed with it. -/
theorem cellsOfLine_append_blank {b : List Char} (hb : Text.allBlank b = true)
    (line : List Char) : cellsOfLine (line ++ b) = cellsOfLine line := by
  have hcomma : ',' ∉ b := Text.notMem_of_allBlank (by decide) hb
  have hlast {s : List Char} (hs : ',' ∉ s) : cellsOfLine (s ++ b) = cellsOfLine s := by
    have hboth : ',' ∉ s ++ b := by simp [hs, hcomma]
    have htrim : Text.trim (s ++ b) = Text.trim s := Text.trim_surrounded (a := []) rfl hb s
    rw [cellsOfLine_of_notMem hboth, cellsOfLine_of_notMem hs, htrim]
  by_cases hline : ',' ∈ line
  · obtain ⟨s, r, rfl, hr⟩ := Text.exists_last_separator hline
    rw [List.append_assoc, List.cons_append, cellsOfLine_append, cellsOfLine_append, hlast hr]
  · exact hlast hline

/-- Trimming the end of a line changes none of its cells. -/
theorem cellsOfLine_trimRight (line : List Char) :
    cellsOfLine (Text.trimRight line) = cellsOfLine line := by
  obtain ⟨b, hb, hcut⟩ := Text.exists_trimRight line
  calc cellsOfLine (Text.trimRight line) = cellsOfLine (Text.trimRight line ++ b) :=
        (cellsOfLine_append_blank hb _).symm
    _ = cellsOfLine line := by rw [← hcut]

/-- Nor does trimming its front. -/
theorem cellsOfLine_trimLeft (line : List Char) :
    cellsOfLine (Text.trimLeft line) = cellsOfLine line := by
  obtain ⟨a, ha, hcut⟩ := Text.exists_trimLeft line
  have hcomma : ',' ∉ a := Text.notMem_of_allBlank (by decide) ha
  have hfirst {s : List Char} (hs : ',' ∉ s) : cellsOfLine (a ++ s) = cellsOfLine s := by
    have hboth : ',' ∉ a ++ s := by simp [hs, hcomma]
    have htrim : Text.trim (a ++ s ++ []) = Text.trim s := Text.trim_surrounded ha rfl s
    rw [List.append_nil] at htrim
    rw [cellsOfLine_of_notMem hboth, cellsOfLine_of_notMem hs, htrim]
  have hblank (s : List Char) : cellsOfLine (a ++ s) = cellsOfLine s := by
    by_cases hs : ',' ∈ s
    · obtain ⟨p, q, rfl, hp⟩ := List.eq_append_cons_of_mem hs
      rw [← List.append_assoc, cellsOfLine_append, cellsOfLine_append, hfirst hp]
    · exact hfirst hs
  calc cellsOfLine (Text.trimLeft line) = cellsOfLine (a ++ Text.trimLeft line) :=
        (hblank _).symm
    _ = cellsOfLine line := by rw [← hcut]

/-! ## What a text says -/

/-- The cells of the lines of a text. -/
def grid (s : List Char) : List (List String) := (Text.pieces '\n' s).map cellsOfLine

/-- A line end cuts a text into the lines before it and the lines behind it. -/
theorem grid_append (s r : List Char) : grid (s ++ '\n' :: r) = grid s ++ grid r := by
  rw [grid, Text.pieces_append, List.map_append]
  rfl

/-- A text without a line end is one line. -/
theorem grid_of_notMem {s : List Char} (h : '\n' ∉ s) : grid s = [cellsOfLine s] := by
  rw [grid, Text.pieces_of_notMem h]
  rfl

/-- A line with two cells or more is not blank. -/
theorem not_blank_of_two_le {line : List Char} (h : 2 ≤ (cellsOfLine line).length) :
    Text.allBlank line = false := by
  rw [Bool.eq_false_iff]
  intro hblank
  exact Text.notMem_of_allBlank (by decide) hblank (comma_mem_of_two_le h)

/-- Trimming the front of a text changes none of its lines, if each has two cells or more. -/
theorem grid_trimLeft {s : List Char} (h : ∀ row ∈ grid s, 2 ≤ row.length) :
    grid (Text.trimLeft s) = grid s := by
  have hline {line : List Char} (hs : '\n' ∉ line) : '\n' ∉ Text.trimLeft line := by
    obtain ⟨a, -, hcut⟩ := Text.exists_trimLeft line
    exact fun hmem => hs (hcut ▸ List.mem_append_right a hmem)
  by_cases hs : '\n' ∈ s
  · obtain ⟨line, r, rfl, hfirst⟩ := List.eq_append_cons_of_mem hs
    rw [grid_append, grid_of_notMem hfirst] at h
    -- The first line is not blank, so the trimming ends in it.
    rw [Text.trimLeft_append (not_blank_of_two_le (h _ List.mem_cons_self)), grid_append,
      grid_append, grid_of_notMem (hline hfirst), grid_of_notMem hfirst, cellsOfLine_trimLeft]
  · rw [grid_of_notMem (hline hs), grid_of_notMem hs, cellsOfLine_trimLeft]

/-- Nor does trimming its end. -/
theorem grid_trimRight {s : List Char} (h : ∀ row ∈ grid s, 2 ≤ row.length) :
    grid (Text.trimRight s) = grid s := by
  have hline {line : List Char} (hs : '\n' ∉ line) : '\n' ∉ Text.trimRight line := by
    obtain ⟨b, -, hcut⟩ := Text.exists_trimRight line
    exact fun hmem => hs (hcut ▸ List.mem_append_left b hmem)
  by_cases hs : '\n' ∈ s
  · obtain ⟨r, line, rfl, hlast⟩ := Text.exists_last_separator hs
    rw [grid_append, grid_of_notMem hlast] at h
    have hblank := not_blank_of_two_le (h _ (List.mem_append_right _ List.mem_cons_self))
    have hcut (t : List Char) : r ++ '\n' :: t = (r ++ ['\n']) ++ t := by simp
    -- The last line is not blank, so the trimming ends in it.
    rw [hcut, Text.trimRight_append hblank, ← hcut, ← hcut, grid_append, grid_append,
      grid_of_notMem (hline hlast), grid_of_notMem hlast, cellsOfLine_trimRight]
  · rw [grid_of_notMem (hline hs), grid_of_notMem hs, cellsOfLine_trimRight]

/-- If each line of a text has two cells or more, trimming the text changes none of them. -/
theorem grid_trim {s : List Char} (h : ∀ row ∈ grid s, 2 ≤ row.length) :
    grid (Text.trim s) = grid s := by
  have hleft := grid_trimLeft h
  rw [← hleft] at h
  rw [Text.trim, grid_trimRight h, hleft]

/-- A text that says a header and rows, all of them as long as the list of query fields, is read as
their table. -/
theorem parse_of_grid {answer : String} {fields header : List String} {rows : List (List String)}
    (hgrid : grid (Text.trim answer.toList) = header :: rows)
    (hblank : Text.trim answer.toList ≠ [])
    (hlength : ∀ row ∈ header :: rows, row.length = fields.length) :
    parse answer fields = .ok ⟨fields, header, rows.map (rowOf fields header)⟩ := by
  obtain ⟨first, rest, hlines⟩ := List.exists_cons_of_ne_nil
    (Text.pieces_ne_nil '\n' (Text.trim answer.toList))
  rw [grid, hlines, List.map_cons, List.cons.injEq] at hgrid
  obtain ⟨rfl, rfl⟩ := hgrid
  obtain ⟨hheader, hrows⟩ := List.forall_mem_cons.mp hlength
  refine parse_eq_ok_iff.mpr ⟨first, rest, hblank, hlines, hheader, fun line hline => ?_, ?_⟩
  · exact hrows _ (List.mem_map_of_mem hline)
  · rw [List.map_map]
    rfl

/-! ## Layouts -/

/-- Blanks that do not end a line. -/
structure Padding where
  blanks : List Char
  blank : Text.allBlank blanks = true
  oneLine : '\n' ∉ blanks

/-- How a line ends in front of the next one. -/
inductive LineEnd
  | /-- With a line feed. -/
    feed
  | /-- With a carriage return and a line feed. -/
    returnFeed
  deriving DecidableEq, Repr

/-- The characters of a line end. -/
def LineEnd.chars : LineEnd → List Char
  | feed => ['\n']
  | returnFeed => ['\r', '\n']

/-- How a table is laid out as a text. Lines and columns are counted from zero, and the header is
the first line. -/
structure Layout where
  /-- The blanks in front of the cell in a line and column. -/
  before : Nat → Nat → Padding
  /-- The blanks behind the cell in a line and column. -/
  behind : Nat → Nat → Padding
  /-- How a line ends, unless it is the last one. -/
  lineEnd : Nat → LineEnd
  /-- The blanks in front of the whole table. -/
  front : List Char
  /-- The blanks behind the whole table. -/
  back : List Char
  blank_front : Text.allBlank front = true
  blank_back : Text.allBlank back = true

namespace Layout

variable (l : Layout)

/-- A cell with the blanks around it. -/
def cell (i j : Nat) (text : String) : List Char :=
  (l.before i j).blanks ++ text.toList ++ (l.behind i j).blanks

/-- A line with commas between its cells. -/
def line (i : Nat) (texts : List String) : List Char := [','].intercalate (texts.mapIdx (l.cell i))

/-- The lines from the one with the given number on, with line ends between them. -/
def lines (i : Nat) : List (List String) → List Char
  | [] => []
  | [row] => l.line i row
  | row :: rows => l.line i row ++ (l.lineEnd i).chars ++ lines (i + 1) rows

/-- The text of the lines of a table. -/
def render (rows : List (List String)) : String :=
  String.ofList (l.front ++ l.lines 0 rows ++ l.back)

end Layout

/-- A text that a cell can have: there is nothing to trim and it ends neither a cell nor a line. -/
structure IsCell (text : String) : Prop where
  trimmed : Text.trim text.toList = text.toList
  noComma : ',' ∉ text.toList
  noLineEnd : '\n' ∉ text.toList

namespace Layout

variable {l : Layout}

/-- A cell with blanks around it ends neither itself nor its line, and trimming gives its text. -/
theorem cell_spec (i j : Nat) {text : String} (h : IsCell text) :
    ',' ∉ l.cell i j text ∧ '\n' ∉ l.cell i j text ∧
      String.ofList (Text.trim (l.cell i j text)) = text := by
  have hcomma (p : Padding) : ',' ∉ p.blanks := Text.notMem_of_allBlank (by decide) p.blank
  refine ⟨?_, ?_, ?_⟩
  · simp [cell, hcomma, h.noComma]
  · simp [cell, Padding.oneLine, h.noLineEnd]
  · rw [cell, Text.trim_surrounded (Padding.blank _) (Padding.blank _), h.trimmed,
      String.ofList_toList]

/-- A line says its cells. -/
theorem cellsOfLine_line (i : Nat) {texts : List String} (hne : texts ≠ [])
    (h : ∀ text ∈ texts, IsCell text) : cellsOfLine (l.line i texts) = texts := by
  have hparts : ∀ part ∈ texts.mapIdx (l.cell i), ',' ∉ part := by
    intro part hpart
    obtain ⟨j, hj, rfl⟩ := List.mem_mapIdx.mp hpart
    exact (cell_spec i j (h _ (List.getElem_mem hj))).1
  have hnonempty : texts.mapIdx (l.cell i) ≠ [] := by simpa using hne
  rw [cellsOfLine, line, Text.pieces_intercalate hnonempty hparts]
  refine List.ext_getElem (by simp) fun j hj hj' => ?_
  rw [List.getElem_map, List.getElem_mapIdx]
  exact (cell_spec i j (h _ (List.getElem_mem hj'))).2.2

/-- A line has no line end in it. -/
theorem lineEnd_notMem_line (i : Nat) {texts : List String} (h : ∀ text ∈ texts, IsCell text) :
    '\n' ∉ l.line i texts := by
  refine Text.notMem_intercalate (by decide) fun part hpart => ?_
  obtain ⟨j, hj, rfl⟩ := List.mem_mapIdx.mp hpart
  exact (cell_spec i j (h _ (List.getElem_mem hj))).2.1

/-- A line and its line end say the cells of the line, whatever the line end is. -/
theorem grid_lineEnd (lineEnd : LineEnd) {line : List Char} (h : '\n' ∉ line) (r : List Char) :
    grid (line ++ lineEnd.chars ++ r) = cellsOfLine line :: grid r := by
  cases lineEnd with
  | feed =>
    rw [LineEnd.chars, List.append_assoc, List.singleton_append, grid_append, grid_of_notMem h,
      List.singleton_append]
  | returnFeed =>
    -- The carriage return is a blank at the end of the line.
    have hcut : line ++ ['\r', '\n'] ++ r = (line ++ ['\r']) ++ '\n' :: r := by simp
    have hreturn : '\n' ∉ line ++ ['\r'] := by simp [h]
    rw [LineEnd.chars, hcut, grid_append, grid_of_notMem hreturn,
      cellsOfLine_append_blank (by decide), List.singleton_append]

/-- The lines of a table say its rows. -/
theorem grid_lines (i : Nat) {rows : List (List String)} (hne : rows ≠ [])
    (hrows : ∀ row ∈ rows, row ≠ []) (h : ∀ row ∈ rows, ∀ text ∈ row, IsCell text) :
    grid (l.lines i rows) = rows := by
  induction rows generalizing i with
  | nil => exact absurd rfl hne
  | cons row rows ih =>
    obtain ⟨hrow, hrows⟩ := List.forall_mem_cons.mp hrows
    obtain ⟨hcells, h⟩ := List.forall_mem_cons.mp h
    have hline := lineEnd_notMem_line (l := l) i hcells
    cases rows with
    | nil => rw [lines, grid_of_notMem hline, cellsOfLine_line i hrow hcells]
    | cons next rows =>
      show grid (l.line i row ++ (l.lineEnd i).chars ++ l.lines (i + 1) (next :: rows)) = _
      rw [grid_lineEnd _ hline, cellsOfLine_line i hrow hcells,
        ih (i + 1) (List.cons_ne_nil next rows) hrows h]

end Layout

/-- The table of texts that were written: the given header, and a row for each line. -/
structure ReadBack (fields header : List String) (rows : List (List String)) (t : Table) :
    Prop where
  /-- The columns are those of the query fields. -/
  queryFields : t.queryFields = fields
  /-- The headers are those that were written. -/
  returnedFields : t.returnedFields = header
  /-- The texts of the rows are those that were written, line by line. -/
  texts : t.rows.map (fun row => row.cells.map (·.rawValue)) = rows
  /-- Each row has a cell for each query field, with its header. -/
  columns : ∀ row ∈ t.rows, row.cells.map (·.queryField) = fields ∧
    row.cells.map (·.returnedField) = header

/-- The table of rows that are as long as the header has their texts. -/
theorem readBack_rowOf {fields header : List String} {rows : List (List String)}
    (hheader : header.length = fields.length) (hrows : ∀ row ∈ rows, row.length = fields.length) :
    ReadBack fields header rows ⟨fields, header, rows.map (rowOf fields header)⟩ := by
  refine ⟨rfl, rfl, ?_, fun row hrow => ?_⟩
  · rw [List.map_map]
    calc rows.map ((fun row => row.cells.map (·.rawValue)) ∘ rowOf fields header)
        = rows.map id :=
          List.map_congr_left fun row hrow => rawValues_rowOf hheader (hrows row hrow)
      _ = rows := List.map_id rows
  · obtain ⟨texts, htexts, rfl⟩ := List.mem_map.mp hrow
    have hlength := hrows texts htexts
    exact ⟨queryFields_rowOf hheader hlength, returnedFields_rowOf hheader hlength⟩

/-- A table with two columns or more is read back from every layout: its header, and its rows one
after the other with all their cells. -/
theorem parse_render (l : Layout) {fields header : List String} {rows : List (List String)}
    (hfields : 2 ≤ fields.length)
    (hlength : ∀ row ∈ header :: rows, row.length = fields.length)
    (hcells : ∀ row ∈ header :: rows, ∀ text ∈ row, IsCell text) :
    ∃ t, parse (l.render (header :: rows)) fields = .ok t ∧ ReadBack fields header rows t := by
  have htwo : ∀ row ∈ header :: rows, 2 ≤ row.length := fun row hrow => by
    rw [hlength row hrow]
    exact hfields
  have hnonempty : ∀ row ∈ header :: rows, row ≠ [] := fun row hrow =>
    List.ne_nil_of_length_pos (Nat.lt_of_lt_of_le Nat.zero_lt_two (htwo row hrow))
  have hlines : grid (l.lines 0 (header :: rows)) = header :: rows :=
    Layout.grid_lines 0 (List.cons_ne_nil _ _) hnonempty hcells
  have htrim : Text.trim (l.render (header :: rows)).toList =
      Text.trim (l.lines 0 (header :: rows)) := by
    rw [Layout.render, String.toList_ofList, Text.trim_surrounded l.blank_front l.blank_back]
  have hgrid : grid (Text.trim (l.render (header :: rows)).toList) = header :: rows := by
    rw [htrim, grid_trim (by rwa [hlines]), hlines]
  have hblank : Text.trim (l.render (header :: rows)).toList ≠ [] := by
    -- A text of which nothing is left says a single cell.
    intro hnil
    rw [hnil] at hgrid
    have hfirst : grid [] = [[""]] := rfl
    rw [hfirst, List.cons.injEq] at hgrid
    have hshort := htwo header List.mem_cons_self
    rw [← hgrid.1] at hshort
    exact absurd hshort (by decide)
  obtain ⟨hheader, hrows⟩ := List.forall_mem_cons.mp hlength
  exact ⟨_, parse_of_grid hgrid hblank hlength, readBack_rowOf hheader hrows⟩

/-- A layout with carriage returns in which every cell has a space in front of it and a tabulator
behind it, and the whole table has line ends around it. -/
def wideLayout : Layout where
  before _ _ := ⟨[' '], by decide, by decide⟩
  behind _ _ := ⟨['\t'], by decide, by decide⟩
  lineEnd _ := .returnFeed
  front := ['\n']
  back := ['\r', '\n']
  blank_front := by decide
  blank_back := by decide

/-- Empty cells at the two ends of a text are read back. -/
theorem parse_wideLayout :
    2 ≤ ["uuid", "name"].length ∧
      (∀ row ∈ [["", "name"], ["GPU-1", ""]], row.length = ["uuid", "name"].length) ∧
      (∀ row ∈ [["", "name"], ["GPU-1", ""]], ∀ text ∈ row, IsCell text) ∧
      ∃ t, parse (wideLayout.render [["", "name"], ["GPU-1", ""]]) ["uuid", "name"] = .ok t ∧
        ReadBack ["uuid", "name"] ["", "name"] [["GPU-1", ""]] t := by
  have hcells : ∀ row ∈ [["", "name"], ["GPU-1", ""]], ∀ text ∈ row, IsCell text := by
    simp only [List.forall_mem_cons, List.not_mem_nil, false_imp_iff, implies_true, and_true]
    exact ⟨⟨⟨by decide, by decide, by decide⟩, ⟨by decide, by decide, by decide⟩⟩,
      ⟨⟨by decide, by decide, by decide⟩, ⟨by decide, by decide, by decide⟩⟩⟩
  exact ⟨by decide, by decide, hcells, parse_render wideLayout (by decide) (by decide) hcells⟩

/-- The text of that layout. -/
example : wideLayout.render [["", "name"], ["GPU-1", ""]] =
    "\n \t, name\t\r\n GPU-1\t, \t\r\n" := by decide

end Table

end GpuMetrics
