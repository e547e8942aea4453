import GpuMetrics.Proofs.Keyed
import GpuMetrics.Table

/-!
# The shape of tables

An answer is a table exactly if its first line and every further line have as many cells as there
are query fields (`Table.parse_eq_ok_iff`). The columns of such a table are the query fields in
their order, in every row, so that a row in which no field stands twice has one cell for each field,
and the cell that is looked up by its field is that cell.
-/

namespace GpuMetrics

namespace Row

/-- The cell of a query field: the first cell of its column. -/
def cell? (row : Row) (field : String) : Option Cell :=
  row.cells.find? fun c => c.queryField = field

/-- The text in the cell of a query field. -/
def text (row : Row) (field : String) : String :=
  match row.cell? field with
  | some c => c.rawValue
  | none => ""

variable {row : Row}

/-- In a row in which no field stands twice, a field has the cell of its column. -/
theorem get?_byField (h : (row.cells.map (·.queryField)).Nodup) (field : String) :
    row.byField.get? field = row.cell? field := by
  have hcells : row.byField = row.cells.map fun c => (c.queryField, c) :=
    Keyed.ofList_of_nodup (by simpa [Function.comp_def] using h)
  rw [hcells]
  exact Keyed.get?_map_key _ _ _

/-- In a row in which no field stands twice, the cells of a field are one cell. -/
theorem filter_cells (h : (row.cells.map (·.queryField)).Nodup) {cell : Cell}
    (hcell : cell ∈ row.cells) :
    row.cells.filter (fun c => c.queryField = cell.queryField) = [cell] := by
  generalize row.cells = cells at h hcell
  induction cells with
  | nil => simp at hcell
  | cons d rest ih =>
    rw [List.map_cons, List.nodup_cons] at h
    rcases List.mem_cons.mp hcell with rfl | hrest
    · -- The field does not come again, so nothing of the rest is taken.
      have hnone : rest.filter (fun c => c.queryField = cell.queryField) = [] := by
        rw [List.filter_eq_nil_iff]
        intro c hc hfield
        exact h.1 (of_decide_eq_true hfield ▸ List.mem_map_of_mem hc)
      rw [List.filter_cons_of_pos (by simp), hnone]
    · have hd : d.queryField ≠ cell.queryField := fun hd => h.1 (hd ▸ List.mem_map_of_mem hrest)
      rw [List.filter_cons_of_neg (by simpa using hd)]
      exact ih h.2 hrest

/-- So each cell is the one of its field. -/
theorem cell?_of_mem (h : (row.cells.map (·.queryField)).Nodup) {cell : Cell}
    (hcell : cell ∈ row.cells) : row.cell? cell.queryField = some cell := by
  rw [cell?, ← List.head?_filter, filter_cells h hcell]
  rfl

/-- In a row in which no field stands twice, the text that is looked up by a field is the text in
its cell. -/
theorem rawValue_eq_text (h : (row.cells.map (·.queryField)).Nodup) (field : String) :
    row.rawValue field "" = row.text field := by
  unfold rawValue text
  cases hcell : row.cell? field <;> simp [get?_byField h, hcell]

/-- In a row in which no field stands twice, the text of a field is that of each cell that belongs
to it. -/
theorem text_of_mem (h : (row.cells.map (·.queryField)).Nodup) {cell : Cell}
    (hcell : cell ∈ row.cells) : row.text cell.queryField = cell.rawValue := by
  rw [text, cell?_of_mem h hcell]

end Row

namespace Table

/-! ## Reading an answer -/

/-- Lines are rows exactly if each has as many cells as there are query fields. -/
theorem rowsFrom_eq_ok_iff {fields headers : List String} {i : Nat} {lines : List (List Char)}
    {rows : List Row} :
    rowsFrom fields headers i lines = .ok rows ↔
      (∀ line ∈ lines, (cellsOfLine line).length = fields.length) ∧
        rows = lines.map fun line => rowOf fields headers (cellsOfLine line) := by
  induction lines generalizing i rows with
  | nil => simp [rowsFrom, eq_comm]
  | cons line rest ih =>
    by_cases hline : (cellsOfLine line).length = fields.length
    · simp only [rowsFrom, hline, if_true]
      cases hrest : rowsFrom fields headers (i + 1) rest with
      | error e =>
        -- If all further lines fitted, they would be rows by the induction hypothesis.
        have hbad : ¬ ∀ l ∈ rest, (cellsOfLine l).length = fields.length := fun hall =>
          nomatch hrest.symm.trans (ih.mpr ⟨hall, rfl⟩)
        simp [Except.map, hline, hbad]
      | ok more =>
        obtain ⟨hall, rfl⟩ := ih.mp hrest
        constructor
        · rintro h
          cases h
          exact ⟨List.forall_mem_cons.mpr ⟨hline, hall⟩, rfl⟩
        · rintro ⟨-, rfl⟩
          rfl
    · simp [rowsFrom, hline]

/-- An answer is a table exactly if it is not blank and each of its lines has as many cells as there
are query fields. The first line has the headers, and every further line is a row. -/
theorem parse_eq_ok_iff {answer : String} {fields : List String} {t : Table} :
    parse answer fields = .ok t ↔
      ∃ first rest, Text.trim answer.toList ≠ [] ∧
        Text.pieces '\n' (Text.trim answer.toList) = first :: rest ∧
        (cellsOfLine first).length = fields.length ∧
        (∀ line ∈ rest, (cellsOfLine line).length = fields.length) ∧
        t = ⟨fields, cellsOfLine first,
          rest.map fun line => rowOf fields (cellsOfLine first) (cellsOfLine line)⟩ := by
  unfold parse
  by_cases hblank : Text.trim answer.toList = []
  · simp [hblank]
  · obtain ⟨first, rest, hlines⟩ := List.exists_cons_of_ne_nil
      (Text.pieces_ne_nil '\n' (Text.trim answer.toList))
    by_cases hfirst : (cellsOfLine first).length = fields.length
    -- With as many headers as fields, the rows decide; `hcut` says that a text is cut in one way.
    · cases hrows : rowsFrom fields (cellsOfLine first) 0 rest with
      | error e =>
        have hbad : ¬ ∀ line ∈ rest, (cellsOfLine line).length = fields.length := fun hall =>
          nomatch hrows.symm.trans (rowsFrom_eq_ok_iff.mpr ⟨hall, rfl⟩)
        simp [hblank, hlines, hfirst, hrows, Except.map, hbad]
      | ok rows =>
        obtain ⟨hall, rfl⟩ := rowsFrom_eq_ok_iff.mp hrows
        simp only [List.isEmpty_iff, hblank, hlines, hfirst, hrows, if_false, if_true, Except.map]
        constructor
        · intro h
          cases h
          exact ⟨first, rest, hblank, rfl, hfirst, hall, rfl⟩
        · rintro ⟨first', rest', -, hcut, -, -, rfl⟩
          cases hcut
          rfl
    · simp [hblank, hlines, hfirst]

/-! ## Columns -/

/-- The columns of a row are the query fields in their order. -/
theorem queryFields_rowOf {fields headers texts : List String}
    (hheaders : headers.length = fields.length) (htexts : texts.length = fields.length) :
    (rowOf fields headers texts).cells.map (·.queryField) = fields := by
  have h : fields.length ≤ (headers.zip texts).length := by simp [hheaders, htexts]
  rw [rowOf, List.map_map]
  exact List.map_fst_zip h

/-- The headers of a row are those of the table. -/
theorem returnedFields_rowOf {fields headers texts : List String}
    (hheaders : headers.length = fields.length) (htexts : texts.length = fields.length) :
    (rowOf fields headers texts).cells.map (·.returnedField) = headers := by
  have hinner : headers.length ≤ texts.length := by omega
  have houter : (headers.zip texts).length ≤ fields.length := by
    rw [List.length_zip]
    omega
  calc (rowOf fields headers texts).cells.map (·.returnedField)
      = ((fields.zip (headers.zip texts)).map Prod.snd).map Prod.fst := by
        rw [rowOf, List.map_map, List.map_map]
        rfl
    _ = headers := by rw [List.map_snd_zip houter, List.map_fst_zip hinner]

/-- The texts of a row are those of its line. -/
theorem rawValues_rowOf {fields headers texts : List String}
    (hheaders : headers.length = fields.length) (htexts : texts.length = fields.length) :
    (rowOf fields headers texts).cells.map (·.rawValue) = texts := by
  have hinner : texts.length ≤ headers.length := by omega
  have houter : (headers.zip texts).length ≤ fields.length := by
    rw [List.length_zip]
    omega
  calc (rowOf fields headers texts).cells.map (·.rawValue)
      = ((fields.zip (headers.zip texts)).map Prod.snd).map Prod.snd := by
        rw [rowOf, List.map_map, List.map_map]
        rfl
    _ = texts := by rw [List.map_snd_zip houter, List.map_snd_zip hinner]

/-- A table that was read has a header for each query field. -/
theorem length_returnedFields_of_parse {answer : String} {fields : List String} {t : Table}
    (h : parse answer fields = .ok t) : t.returnedFields.length = fields.length := by
  obtain ⟨first, rest, -, -, hfirst, -, rfl⟩ := parse_eq_ok_iff.mp h
  exact hfirst

/-- The columns of every row of a table that was read are the query fields in their order. -/
theorem queryFields_of_parse {answer : String} {fields : List String} {t : Table}
    (h : parse answer fields = .ok t) {row : Row} (hrow : row ∈ t.rows) :
    row.cells.map (·.queryField) = fields := by
  obtain ⟨first, rest, -, -, hfirst, hrest, rfl⟩ := parse_eq_ok_iff.mp h
  obtain ⟨line, hline, rfl⟩ := List.mem_map.mp hrow
  exact queryFields_rowOf hfirst (hrest line hline)

end Table

end GpuMetrics
