import GpuMetrics.Proofs.Table

/-!
# What an answer is read as

An answer is trimmed and cut into lines, and each line is cut at its commas. It is a table exactly
if something is left of it and each line has one comma less than there are query fields. Otherwise
the first line that does not fit is told, with its number of cells (`Misfit`). In a table that was
read, the cell at a place of a row has the field, the header and the text at that place (`Shows`).

The same cells are also found by their fields: in a row, where each field has one cell, and in the
whole table, where each field has a column. If no field stands twice, these are the cells at the
place of the field (`Columns`). `parse_decision` puts all of this together.
-/

namespace GpuMetrics

namespace Table

/-! ## Lines and cells -/

/-- The lines of an answer without the blanks around it. -/
def linesOf (answer : String) : List (List Char) := Text.pieces '\n' (Text.trim answer.toList)

/-- The texts between the commas of a line. -/
def tokensOf (line : List Char) : List (List Char) := Text.pieces ',' line

/-- Whether a line has a cell for each query field, which is one more than it has commas. -/
def Fits (fields : List String) (line : List Char) : Prop := line.count ',' + 1 = fields.length

/-- A line has one cell more than commas. -/
theorem length_cellsOfLine (line : List Char) :
    (cellsOfLine line).length = line.count ',' + 1 := by
  rw [cellsOfLine, List.length_map, Text.length_pieces]

/-- The cells of a line are its texts between commas, each of them trimmed. -/
theorem getElem?_cellsOfLine (line : List Char) (j : Nat) :
    (cellsOfLine line)[j]? = (tokensOf line)[j]?.map fun token => String.ofList (Text.trim token) :=
  List.getElem?_map

/-! ## The first line that does not fit -/

/-- What is wrong with an answer that is no table: it is blank, its first line has not one header
for each field, or a further line has not one cell for each field, and this is the first such
line. -/
inductive Misfit (answer : String) (fields : List String) : Mismatch → Prop
  | /-- Nothing is left of the answer. -/
    blank (hblank : Text.trim answer.toList = []) :
      Misfit answer fields ⟨fields.length, 0, .header⟩
  | /-- The first line does not fit. -/
    header {first : List Char} {rest : List (List Char)} (hblank : Text.trim answer.toList ≠ [])
      (hlines : linesOf answer = first :: rest) (hfirst : ¬ Fits fields first) :
      Misfit answer fields ⟨fields.length, first.count ',' + 1, .header⟩
  | /-- All lines up to one fit, and this one does not. -/
    row {first line : List Char} {before after : List (List Char)}
      (hblank : Text.trim answer.toList ≠ [])
      (hlines : linesOf answer = first :: (before ++ line :: after)) (hfirst : Fits fields first)
      (hbefore : ∀ l ∈ before, Fits fields l) (hline : ¬ Fits fields line) :
      Misfit answer fields ⟨fields.length, line.count ',' + 1, .row before.length⟩

/-- Lines are no rows exactly if one of them does not fit, and the first such line is told with its
index. -/
theorem rowsFrom_eq_error_iff {fields headers : List String} {i : Nat} {lines : List (List Char)}
    {m : Mismatch} :
    rowsFrom fields headers i lines = .error m ↔
      ∃ before line after, lines = before ++ line :: after ∧ (∀ l ∈ before, Fits fields l) ∧
        ¬ Fits fields line ∧ m = ⟨fields.length, line.count ',' + 1, .row (i + before.length)⟩ := by
  induction lines generalizing i with
  | nil => simp [rowsFrom]
  | cons l rest ih =>
    rw [rowsFrom, length_cellsOfLine]
    by_cases hl : Fits fields l
    · -- The first line is a row, so the misfit is one of the lines behind it.
      have hrows : (rowsFrom fields headers (i + 1) rest).map
          (rowOf fields headers (cellsOfLine l) :: ·) = .error m ↔
            rowsFrom fields headers (i + 1) rest = .error m := by
        cases rowsFrom fields headers (i + 1) rest <;> simp [Except.map]
      rw [if_pos (show l.count ',' + 1 = fields.length from hl), hrows, ih]
      constructor
      · rintro ⟨before, line, after, rfl, hbefore, hline, rfl⟩
        refine ⟨l :: before, line, after, rfl, List.forall_mem_cons.mpr ⟨hl, hbefore⟩, hline, ?_⟩
        rw [List.length_cons, Nat.add_right_comm, Nat.add_assoc]
      · rintro ⟨before, line, after, hlines, hbefore, hline, rfl⟩
        cases before with
        | nil =>
          cases hlines
          exact absurd hl hline
        | cons b before =>
          cases hlines
          refine ⟨before, line, after, rfl, (List.forall_mem_cons.mp hbefore).2, hline, ?_⟩
          rw [List.length_cons, Nat.add_right_comm, Nat.add_assoc]
    · rw [if_neg (show ¬ l.count ',' + 1 = fields.length from hl)]
      constructor
      · intro h
        cases h
        exact ⟨[], l, rest, rfl, by simp, hl, rfl⟩
      · rintro ⟨before, line, after, hlines, hbefore, hline, rfl⟩
        cases before with
        | nil =>
          cases hlines
          rfl
        | cons b before =>
          cases hlines
          exact absurd (hbefore _ List.mem_cons_self) hl

variable {answer : String} {fields : List String}

/-- An answer of which nothing is left is no table. -/
theorem parse_of_blank (hblank : Text.trim answer.toList = []) :
    parse answer fields = .error ⟨fields.length, 0, .header⟩ := by
  simp [parse, hblank]

/-- An answer whose first line does not fit is no table. -/
theorem parse_of_header {first : List Char} {rest : List (List Char)}
    (hblank : Text.trim answer.toList ≠ []) (hlines : linesOf answer = first :: rest)
    (hfirst : ¬ Fits fields first) :
    parse answer fields = .error ⟨fields.length, first.count ',' + 1, .header⟩ := by
  rw [linesOf] at hlines
  rw [Fits] at hfirst
  simp [parse, hblank, hlines, length_cellsOfLine, hfirst]

/-- An answer whose first line fits is as good as its further lines. -/
theorem parse_of_fits {first : List Char} {rest : List (List Char)}
    (hblank : Text.trim answer.toList ≠ []) (hlines : linesOf answer = first :: rest)
    (hfirst : Fits fields first) :
    parse answer fields = (rowsFrom fields (cellsOfLine first) 0 rest).map fun rows =>
      ⟨fields, cellsOfLine first, rows⟩ := by
  rw [linesOf] at hlines
  rw [Fits] at hfirst
  simp [parse, hblank, hlines, length_cellsOfLine, hfirst]

/-- An answer is no table exactly for the first line that does not fit. -/
theorem parse_eq_error_iff {m : Mismatch} :
    parse answer fields = .error m ↔ Misfit answer fields m := by
  -- The tests are made in the order of the reader, each of which leaves one kind of misfit.
  by_cases hblank : Text.trim answer.toList = []
  · rw [parse_of_blank hblank]
    constructor
    · intro h
      cases h
      exact .blank hblank
    · rintro (_ | hne | hne)
      · rfl
      · exact absurd hblank hne
      · exact absurd hblank hne
  · obtain ⟨first, rest, hlines⟩ := List.exists_cons_of_ne_nil
      (Text.pieces_ne_nil '\n' (Text.trim answer.toList))
    change linesOf answer = first :: rest at hlines
    by_cases hfirst : Fits fields first
    · have hrows : parse answer fields = .error m ↔
          rowsFrom fields (cellsOfLine first) 0 rest = .error m := by
        rw [parse_of_fits hblank hlines hfirst]
        cases rowsFrom fields (cellsOfLine first) 0 rest <;> simp [Except.map]
      rw [hrows, rowsFrom_eq_error_iff]
      constructor
      · rintro ⟨before, line, after, rfl, hbefore, hline, rfl⟩
        rw [Nat.zero_add]
        exact .row hblank hlines hfirst hbefore hline
      · rintro (hb | ⟨-, hlines', hfirst'⟩ | ⟨-, hlines', -, hbefore, hline⟩)
        · exact absurd hb hblank
        · cases hlines.symm.trans hlines'
          exact absurd hfirst hfirst'
        · cases hlines.symm.trans hlines'
          exact ⟨_, _, _, rfl, hbefore, hline, by rw [Nat.zero_add]⟩
    · rw [parse_of_header hblank hlines hfirst]
      constructor
      · intro h
        cases h
        exact .header hblank hlines hfirst
      · rintro (hb | ⟨-, hlines', hfirst'⟩ | ⟨-, hlines', hfirst', -, -⟩)
        · exact absurd hb hblank
        · cases hlines.symm.trans hlines'
          rfl
        · cases hlines.symm.trans hlines'
          exact absurd hfirst' hfirst

/-- An answer is a table exactly if something is left of it and each of its lines fits. -/
theorem exists_parse_iff :
    (∃ t, parse answer fields = .ok t) ↔
      Text.trim answer.toList ≠ [] ∧ ∀ line ∈ linesOf answer, Fits fields line := by
  simp only [parse_eq_ok_iff, length_cellsOfLine]
  constructor
  · rintro ⟨t, first, rest, hblank, hlines, hfirst, hrest, rfl⟩
    rw [linesOf, hlines]
    exact ⟨hblank, List.forall_mem_cons.mpr ⟨hfirst, hrest⟩⟩
  · rintro ⟨hblank, hfits⟩
    obtain ⟨first, rest, hlines⟩ := List.exists_cons_of_ne_nil
      (Text.pieces_ne_nil '\n' (Text.trim answer.toList))
    rw [linesOf, hlines, List.forall_mem_cons] at hfits
    exact ⟨_, first, rest, hblank, hlines, hfits.1, hfits.2, rfl⟩

/-! ## The cells of a table -/

/-- What a table shows of an answer: a row for each line behind the first, and in each row a cell
for each query field, with the header and the text at the same place. -/
structure Shows (answer : String) (fields : List String) (t : Table) : Prop where
  /-- The rows are those of the lines behind the first one. -/
  rows : t.rows.length = (linesOf answer).tail.length
  /-- A row has as many cells as there are query fields. -/
  cells : ∀ row ∈ t.rows, row.cells.length = fields.length
  /-- A cell has the query field, the trimmed header and the trimmed text at its place. -/
  cell : ∀ (i j : Nat) (row : Row) (cell : Cell), t.rows[i]? = some row →
    row.cells[j]? = some cell → ∃ first line header token,
      (linesOf answer).head? = some first ∧ (linesOf answer).tail[i]? = some line ∧
        (tokensOf first)[j]? = some header ∧ (tokensOf line)[j]? = some token ∧
        fields[j]? = some cell.queryField ∧
        cell.returnedField = String.ofList (Text.trim header) ∧
        cell.rawValue = String.ofList (Text.trim token)

/-- The cells of a row are made of the fields, headers and texts at their places. -/
theorem getElem?_rowOf {fields headers texts : List String} {j : Nat} {cell : Cell}
    (h : (rowOf fields headers texts).cells[j]? = some cell) :
    fields[j]? = some cell.queryField ∧ headers[j]? = some cell.returnedField ∧
      texts[j]? = some cell.rawValue := by
  rw [rowOf, List.getElem?_map, Option.map_eq_some_iff] at h
  obtain ⟨⟨q, r, v⟩, hzip, rfl⟩ := h
  obtain ⟨hq, hzip⟩ := List.getElem?_zip_eq_some.mp hzip
  obtain ⟨hr, hv⟩ := List.getElem?_zip_eq_some.mp hzip
  exact ⟨hq, hr, hv⟩

/-- A table that was read shows the cells of its answer. -/
theorem shows_of_parse {t : Table} (h : parse answer fields = .ok t) : Shows answer fields t := by
  obtain ⟨first, rest, hblank, hlines, hfirst, hrest, rfl⟩ := parse_eq_ok_iff.mp h
  change linesOf answer = first :: rest at hlines
  refine ⟨?_, fun row hrow => ?_, fun i j row cell hrow hcell => ?_⟩
  · rw [hlines, List.length_map, List.tail_cons]
  · rw [← queryFields_of_parse h hrow, List.length_map]
  · rw [List.getElem?_map, Option.map_eq_some_iff] at hrow
    obtain ⟨line, hline, rfl⟩ := hrow
    obtain ⟨hfield, hheader, htext⟩ := getElem?_rowOf hcell
    rw [getElem?_cellsOfLine, Option.map_eq_some_iff] at hheader htext
    obtain ⟨header, hheader, hreturned⟩ := hheader
    obtain ⟨token, htoken, hraw⟩ := htext
    rw [hlines]
    exact ⟨first, line, header, token, rfl, hline, hheader, htoken, hfield, hreturned.symm,
      hraw.symm⟩

/-! ## Cells by their fields -/

/-- How the cells of a table are found by their fields, for a table in which no field stands
twice. -/
structure Columns (fields : List String) (t : Table) : Prop where
  /-- The columns are those of the query fields. -/
  keys : Keyed.keys t.byField = fields
  /-- The column of a field has the cell at its place from each row, in the order of the rows. -/
  column : ∀ (j : Nat) (q : String), fields[j]? = some q → ∃ column : List Cell,
    Keyed.get? t.byField q = some column ∧ column.map some = t.rows.map fun row => row.cells[j]?
  /-- In a row, the cell at the place of a field is found under the field. -/
  lookup : ∀ row ∈ t.rows, ∀ (j : Nat) (q : String), fields[j]? = some q →
    ∃ cell, row.cells[j]? = some cell ∧ Keyed.get? row.byField q = some cell

/-- Cells that are put to their fields, one after the other, go to the ends of the columns. -/
theorem foldl_change_cells (hfields : fields.Nodup) (cells : List Cell)
    (column : String → List Cell) :
    cells.foldl (fun d c => Keyed.change d c.queryField (· ++ [c]))
        (fields.map fun q => (q, column q)) =
      fields.map fun q => (q, column q ++ cells.filter fun c => c.queryField = q) := by
  induction cells generalizing column with
  | nil => simp
  | cons c rest ih =>
    rw [List.foldl_cons, Keyed.change_of_keys hfields, ih]
    refine List.map_congr_left fun q _ => ?_
    by_cases hq : c.queryField = q
    · simp [hq]
    · have hq' : q ≠ c.queryField := fun h => hq h.symm
      simp [hq, hq']

/-- The columns of a table, if no field stands twice: the cells of each field from the first row to
the last. -/
theorem byField_eq {t : Table} (hfields : t.queryFields.Nodup) :
    t.byField = t.queryFields.map fun q =>
      (q, (t.rows.flatMap Row.cells).filter fun c => c.queryField = q) := by
  have hstart : Keyed.ofList (t.queryFields.map fun q => (q, ([] : List Cell))) =
      t.queryFields.map fun q => (q, []) :=
    Keyed.ofList_of_nodup (by simpa [Function.comp_def] using hfields)
  simp only [byField]
  rw [hstart, foldl_change_cells hfields]
  rfl

/-- In rows with the columns of the query fields, the cells of a field are those at its place. -/
theorem filter_flatMap_cells {rows : List Row} {j : Nat} {q : String} (hfields : fields.Nodup)
    (hrows : ∀ row ∈ rows, row.cells.map (·.queryField) = fields) (hq : fields[j]? = some q) :
    ((rows.flatMap Row.cells).filter fun c => c.queryField = q).map some =
      rows.map fun row => row.cells[j]? := by
  induction rows with
  | nil => rfl
  | cons row rest ih =>
    obtain ⟨hrow, hrest⟩ := List.forall_mem_cons.mp hrows
    rw [← hrow, List.getElem?_map, Option.map_eq_some_iff] at hq
    obtain ⟨cell, hcell, rfl⟩ := hq
    have hone := Row.filter_cells (hrow ▸ hfields) (List.mem_of_getElem? hcell)
    rw [List.flatMap_cons, List.filter_append, List.map_append, hone, ih hrest,
      List.map_cons (a := row), hcell]
    rfl

/-- The cells of a table that was read are found by their fields, if no field stands twice. -/
theorem columns_of_parse {t : Table} (h : parse answer fields = .ok t) (hfields : fields.Nodup) :
    Columns fields t := by
  have hqueryFields : t.queryFields = fields := by
    obtain ⟨first, rest, -, -, -, -, rfl⟩ := parse_eq_ok_iff.mp h
    rfl
  have hrows : ∀ row ∈ t.rows, row.cells.map (·.queryField) = fields := fun row hrow =>
    queryFields_of_parse h hrow
  have hcolumns := byField_eq (t := t) (hqueryFields ▸ hfields)
  rw [hqueryFields] at hcolumns
  refine ⟨?_, fun j q hq => ?_, fun row hrow j q hq => ?_⟩
  · rw [hcolumns, Keyed.keys, List.map_map]
    exact List.map_id' _
  · refine ⟨_, ?_, filter_flatMap_cells hfields hrows hq⟩
    rw [hcolumns, Keyed.get?_of_keys, if_pos (List.mem_of_getElem? hq)]
  · rw [← hrows row hrow, List.getElem?_map, Option.map_eq_some_iff] at hq
    obtain ⟨cell, hcell, rfl⟩ := hq
    have hnodup : (row.cells.map (·.queryField)).Nodup := hrows row hrow ▸ hfields
    refine ⟨cell, hcell, ?_⟩
    rw [Row.get?_byField hnodup, Row.cell?_of_mem hnodup (List.mem_of_getElem? hcell)]

/-! ## The whole decision -/

/-- An answer is a table exactly if something is left of it and each line has one comma less than
there are query fields. If it is none, the first line that does not fit is told. If it is one, its
rows have the cells of the lines, and if no field stands twice, they are also found by their
fields. -/
theorem parse_decision (answer : String) (fields : List String) :
    ((∃ t, parse answer fields = .ok t) ↔
        Text.trim answer.toList ≠ [] ∧
          ∀ line ∈ linesOf answer, line.count ',' + 1 = fields.length) ∧
      (∀ m, parse answer fields = .error m ↔ Misfit answer fields m) ∧
      ∀ t, parse answer fields = .ok t →
        Shows answer fields t ∧ (fields.Nodup → Columns fields t) :=
  ⟨exists_parse_iff, fun _ => parse_eq_error_iff,
    fun _ h => ⟨shows_of_parse h, columns_of_parse h⟩⟩

/-- An answer with two devices. The last device has no name, and the blanks behind its comma are
trimmed with those behind the answer. -/
def twoDevices : String := "\nuuid , name\nGPU-1, T4\r\nGPU-2, \n"

/-- The table of the two devices. -/
def twoRows : Table :=
  ⟨["uuid", "name"], ["uuid", "name"],
    [⟨[⟨"uuid", "uuid", "GPU-1"⟩, ⟨"name", "name", "T4"⟩]⟩,
      ⟨[⟨"uuid", "uuid", "GPU-2"⟩, ⟨"name", "name", ""⟩]⟩]⟩

/-- The answer with the two devices is read as the table of both. -/
theorem parse_twoDevices :
    parse twoDevices ["uuid", "name"] = .ok twoRows ∧ ["uuid", "name"].Nodup ∧
      Shows twoDevices ["uuid", "name"] twoRows ∧ Columns ["uuid", "name"] twoRows := by
  have hparse : parse twoDevices ["uuid", "name"] = .ok twoRows := rfl
  have hfields : ["uuid", "name"].Nodup := by decide
  obtain ⟨hshows, hcolumns⟩ := (parse_decision twoDevices ["uuid", "name"]).2.2 twoRows hparse
  exact ⟨hparse, hfields, hshows, hcolumns hfields⟩

/-- The second of three devices is the first line that does not fit, and it has one cell too
many. -/
example : parse "uuid, name\nGPU-1, T4\nGPU-2, A2, 5\nGPU-3" ["uuid", "name"] =
    .error ⟨2, 3, .row 1⟩ := rfl

end Table

end GpuMetrics
