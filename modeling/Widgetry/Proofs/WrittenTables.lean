import Widgetry.Proofs.Tables
import Widgetry.Proofs.WrittenBlocks

/-!
# Tables that have been written

A chart keeps its table column by column, and it is written row by row. If all columns are as long
as there are labels, the rows have a number for each column (`shape_of_rows`), and the columns of
the rows are the columns again (`columns_rows`). A written row is read as the row
(`readRow_rowLine`), so a written table is read as the table (`readTable_table`). The names and
labels may be empty, and they may hold colons, quotes and brackets: only commas and line feeds end a
cell.
-/

namespace Widgetry

open Text Outcome

namespace Grammar

/-! ## Rows and columns -/

/-- The rows of a table that is kept column by column. -/
def rows : List Text → List (List Number) → List Row
  | [], _ => []
  | label :: labels, columns =>
    ⟨label, columns.filterMap List.head?⟩ :: rows labels (columns.map List.tail)

theorem labels_rows (labels : List Text) (columns : List (List Number)) :
    (rows labels columns).map Row.label = labels := by
  induction labels generalizing columns with
  | nil => rfl
  | cons label labels ih => rw [rows, List.map_cons, ih]

theorem length_of_mem_tails {n : Nat} {columns : List (List Number)}
    (h : ∀ column ∈ columns, column.length = n + 1) :
    ∀ column ∈ columns.map List.tail, column.length = n := by
  intro column hcolumn
  obtain ⟨column, hmem, rfl⟩ := List.mem_map.mp hcolumn
  rw [List.length_tail, h column hmem]
  rfl

/-- **Rows of columns that are long enough** are as wide as there are columns, and hold nothing but
what the columns hold. -/
theorem shape_of_rows {labels : List Text} {columns : List (List Number)}
    (h : ∀ column ∈ columns, column.length = labels.length) :
    ∀ row ∈ rows labels columns,
      row.numbers.length = columns.length ∧ ∀ n ∈ row.numbers, ∃ column ∈ columns, n ∈ column := by
  induction labels generalizing columns with
  | nil => simp [rows]
  | cons label labels ih =>
    intro row hrow
    rw [rows, List.mem_cons] at hrow
    rcases hrow with rfl | hrow
    · apply heads_of_ne_nil
      intro column hcolumn hnil
      have hlength := h column hcolumn
      rw [hnil] at hlength
      exact absurd hlength (by simp)
    · obtain ⟨hwidth, hmem⟩ := ih (length_of_mem_tails h) row hrow
      refine ⟨by rw [hwidth, List.length_map], ?_⟩
      intro n hn
      obtain ⟨tail, htail, hn⟩ := hmem n hn
      obtain ⟨column, hcolumn, rfl⟩ := List.mem_map.mp htail
      exact ⟨column, hcolumn, List.mem_of_mem_tail hn⟩

/-- The first column of the rows is the first column, and without it the rows are those of the other
columns. -/
theorem rows_cons {labels : List Text} {column : List Number}
    (h : column.length = labels.length) (columns : List (List Number)) :
    ((rows labels (column :: columns)).map Row.numbers).filterMap List.head? = column ∧
      ((rows labels (column :: columns)).map Row.numbers).map List.tail =
        (rows labels columns).map Row.numbers := by
  induction labels generalizing column columns with
  | nil => simpa [rows] using h
  | cons label labels ih =>
    obtain ⟨n, column, rfl⟩ := List.exists_cons_of_length_eq_add_one h
    obtain ⟨hhead, htail⟩ := ih (Nat.succ.inj h) (columns.map List.tail)
    rw [rows, rows]
    simp only [List.map_cons, List.tail_cons, List.filterMap_cons, List.head?_cons]
    exact ⟨by rw [hhead], by rw [htail]⟩

/-- **The columns of the rows are the columns.** -/
theorem columns_rows {labels : List Text} {datasets : List Dataset}
    (h : ∀ d ∈ datasets, d.data.length = labels.length) :
    columns (datasets.map Dataset.label)
      ((rows labels (datasets.map Dataset.data)).map Row.numbers) = datasets := by
  induction datasets with
  | nil => rfl
  | cons d datasets ih =>
    obtain ⟨hhead, htail⟩ := rows_cons (h d List.mem_cons_self) (datasets.map Dataset.data)
    rw [List.map_cons, List.map_cons, columns, hhead, htail,
      ih fun d hd => h d (List.mem_cons_of_mem _ hd)]

end Grammar

namespace Writer

open Grammar

/-! ## Cells -/

/-- A text that a table can hold: trimmed, and without the characters that end a cell. -/
structure Cell (t : Text) : Prop where
  trimmed : Trimmed t
  comma : ',' ∉ t
  line : '\n' ∉ t

instance (t : Text) : Decidable (Cell t) :=
  decidable_of_iff (Trimmed t ∧ ',' ∉ t ∧ '\n' ∉ t)
    ⟨fun h => ⟨h.1, h.2.1, h.2.2⟩, fun h => ⟨h.trimmed, h.comma, h.line⟩⟩

/-- An integer that binary64 holds exactly. -/
def Exact (n : Number) : Prop := ∃ k : Int, n = .int k ∧ k.natAbs ≤ 2 ^ 53

instance : DecidablePred Exact
  | .int k => decidable_of_iff (k.natAbs ≤ 2 ^ 53)
      ⟨fun h => ⟨k, rfl, h⟩, fun ⟨_, hk, h⟩ => Number.int.inj hk ▸ h⟩
  | .float _ => isFalse fun ⟨_, h, _⟩ => Number.noConfusion h

theorem cell_number {n : Number} (h : Exact n) : Cell (number n) := by
  obtain ⟨k, rfl, -⟩ := h
  exact ⟨trimmed_ofInt k, not_mem_ofInt (by decide) (by decide) k,
    not_mem_ofInt (by decide) (by decide) k⟩

/-- A row of trimmed cells is trimmed, also where the outer ones are empty. -/
theorem trimmed_tableRow {cells : List Text} (h : ∀ cell ∈ cells, Trimmed cell) :
    Trimmed (tableRow cells) := by
  unfold tableRow
  induction cells with
  | nil => exact trimmed_nil
  | cons cell cells ih =>
    have hcell := h cell List.mem_cons_self
    have hrest := ih fun c hc => h c (List.mem_cons_of_mem cell hc)
    cases cells with
    | nil => simpa using hcell
    | cons next cells =>
      rw [List.intercalate_cons_cons, List.append_assoc, List.singleton_append]
      exact trimmed_append_ink hcell (by decide) hrest

/-- A row of two or more cells is not blank. -/
theorem scalar_tableRow {first second : Text} {others : List Text}
    (h : ∀ cell ∈ first :: second :: others, Cell cell) :
    Scalar (tableRow (first :: second :: others)) :=
  ⟨by simp [tableRow, List.intercalate_cons_cons],
    trimmed_tableRow fun cell hcell => (h cell hcell).trimmed⟩

theorem not_mem_tableRow {cells : List Text} (h : ∀ cell ∈ cells, Cell cell) :
    '\n' ∉ tableRow cells :=
  not_mem_intercalate (by decide) fun cell hcell => (h cell hcell).line

theorem cells_tableRow {first : Text} {others : List Text}
    (h : ∀ cell ∈ first :: others, Cell cell) :
    cells (tableRow (first :: others)) = (first, others) := by
  have hcut : cut (· == ',') (tableRow (first :: others)) = (first, others) :=
    cut_intercalate_of_not_mem fun cell hcell => (h cell hcell).comma
  have hothers : others.map trim = others :=
    map_trim fun cell hcell => (h cell (List.mem_cons_of_mem first hcell)).trimmed
  rw [cells, hcut]
  simp only [hothers, trim_eq_self (h first List.mem_cons_self).trimmed]

/-- No line is lost or changed if none is blank and all are trimmed. -/
theorem inked_of_scalar {ls : List Text} (h : ∀ l ∈ ls, Scalar l) : inked ls = ls := by
  rw [inked, map_trim fun l hl => (h l hl).trimmed, filter_ne_nil fun l hl => (h l hl).ne_nil]

/-! ## Rows -/

/-- The line of a row. -/
def rowLine (row : Row) : Text := tableRow (row.label :: row.numbers.map number)

/-- A row that can be read back from its line: with a number, all of which are exact. -/
structure WritableRow (row : Row) : Prop where
  label : Cell row.label
  nonempty : row.numbers ≠ []
  numbers : ∀ n ∈ row.numbers, Exact n

theorem tableRows_eq (labels : List Text) (columns : List (List Number)) :
    tableRows labels columns = (rows labels columns).map rowLine := by
  induction labels generalizing columns with
  | nil => rfl
  | cons label labels ih => rw [tableRows, rows, List.map_cons, ih]; rfl

section Rows

variable {row : Row} (h : WritableRow row)
include h

theorem cell_of_mem_row : ∀ cell ∈ row.label :: row.numbers.map number, Cell cell := by
  intro cell hcell
  rcases List.mem_cons.mp hcell with rfl | hcell
  · exact h.label
  · obtain ⟨n, hn, rfl⟩ := List.mem_map.mp hcell
    exact cell_number (h.numbers n hn)

theorem scalar_rowLine : Scalar (rowLine row) := by
  have hcells := cell_of_mem_row h
  obtain ⟨n, others, hnumbers⟩ := List.exists_cons_of_ne_nil h.nonempty
  rw [hnumbers, List.map_cons] at hcells
  rw [rowLine, hnumbers, List.map_cons]
  exact scalar_tableRow hcells

/-- **A written row is read as the row**, in a table of its width. -/
theorem readRow_rowLine (number : Nat) :
    readRow row.numbers.length (rowLine row) number = .ok row := by
  have hread : ((row.numbers.map Writer.number).zipIdx 2).mapM
      (fun x => readCell number x.1 x.2) = .ok row.numbers := by
    apply mapM_zipIdx_eq_ok
    rw [List.forall₂_map_left_iff, List.forall₂_same]
    intro n hn column
    obtain ⟨k, rfl, hk⟩ := h.numbers n hn
    simp only [readCell, Writer.number, Number.read?_ofInt hk]
  simp only [readRow, rowLine, cells_tableRow (cell_of_mem_row h), List.length_map, if_true]
  exact map_eq_ok_iff.mpr ⟨row.numbers, hread, rfl⟩

end Rows

/-! ## Tables -/

/-- The table of the chart can be read back, with the given text in the corner. -/
structure WritableTable (corner : Text) (c : Chart) : Prop where
  corner : Cell corner
  names : ∀ d ∈ c.datasets, Cell d.label
  labels : ∀ label ∈ c.labels, Cell label
  nonempty : c.datasets ≠ []
  rectangular : ∀ d ∈ c.datasets, d.data.length = c.labels.length
  numbers : ∀ d ∈ c.datasets, ∀ n ∈ d.data, Exact n

namespace WritableTable

variable {corner : Text} {c : Chart} (h : WritableTable corner c)
include h

/-- The rows of the chart's table. -/
theorem writableRow :
    ∀ row ∈ rows c.labels (c.datasets.map Dataset.data),
      WritableRow row ∧ row.numbers.length = c.datasets.length := by
  have hlength : ∀ column ∈ c.datasets.map Dataset.data, column.length = c.labels.length := by
    intro column hcolumn
    obtain ⟨d, hd, rfl⟩ := List.mem_map.mp hcolumn
    exact h.rectangular d hd
  intro row hrow
  obtain ⟨hwidth, hmem⟩ := shape_of_rows hlength row hrow
  rw [List.length_map] at hwidth
  refine ⟨⟨?_, ?_, ?_⟩, hwidth⟩
  · apply h.labels
    rw [← labels_rows c.labels (c.datasets.map Dataset.data)]
    exact List.mem_map_of_mem hrow
  · intro hnil
    rw [hnil] at hwidth
    exact h.nonempty (List.length_eq_zero_iff.mp hwidth.symm)
  · intro n hn
    obtain ⟨column, hcolumn, hn⟩ := hmem n hn
    obtain ⟨d, hd, rfl⟩ := List.mem_map.mp hcolumn
    exact h.numbers d hd n hn

theorem cell_of_mem_header : ∀ cell ∈ corner :: c.datasets.map Dataset.label, Cell cell := by
  intro cell hcell
  rcases List.mem_cons.mp hcell with rfl | hcell
  · exact h.corner
  · obtain ⟨d, hd, rfl⟩ := List.mem_map.mp hcell
    exact h.names d hd

theorem scalar_header : Scalar (tableRow (corner :: c.datasets.map Dataset.label)) := by
  have hcells := h.cell_of_mem_header
  obtain ⟨d, others, hdatasets⟩ := List.exists_cons_of_ne_nil h.nonempty
  rw [hdatasets, List.map_cons] at hcells ⊢
  exact scalar_tableRow hcells

/-- Every line of the table is a scalar, and none holds a line feed. -/
theorem scalar_of_mem_table : ∀ l ∈ table corner c, Scalar l ∧ '\n' ∉ l := by
  intro l hl
  rw [table, tableRows_eq] at hl
  rcases List.mem_cons.mp hl with rfl | hl
  · exact ⟨h.scalar_header, not_mem_tableRow h.cell_of_mem_header⟩
  · obtain ⟨row, hrow, rfl⟩ := List.mem_map.mp hl
    have hwritable := (h.writableRow row hrow).1
    exact ⟨scalar_rowLine hwritable, not_mem_tableRow (cell_of_mem_row hwritable)⟩

/-- **A written table is read as the table.** -/
theorem readTable_table : readTable (table corner c) = .ok ⟨c.labels, c.datasets⟩ := by
  have hnames : c.datasets.map Dataset.label =
      (cells (trim (tableRow (corner :: c.datasets.map Dataset.label)))).2 := by
    rw [trim_eq_self h.scalar_header.trimmed, cells_tableRow h.cell_of_mem_header]
  have hinked : inked (tableRows c.labels (c.datasets.map Dataset.data)) =
      (rows c.labels (c.datasets.map Dataset.data)).map rowLine := by
    rw [tableRows_eq]
    apply inked_of_scalar
    intro l hl
    obtain ⟨row, hrow, rfl⟩ := List.mem_map.mp hl
    exact scalar_rowLine (h.writableRow row hrow).1
  have hrows : (((rows c.labels (c.datasets.map Dataset.data)).map rowLine).zipIdx 2).mapM
      (fun x => readRow (c.datasets.map Dataset.label).length x.1 x.2) =
        .ok (rows c.labels (c.datasets.map Dataset.data)) := by
    apply mapM_zipIdx_eq_ok
    rw [List.forall₂_map_left_iff, List.forall₂_same]
    intro row hrow number
    obtain ⟨hwritable, hwidth⟩ := h.writableRow row hrow
    rw [List.length_map, ← hwidth]
    exact readRow_rowLine hwritable number
  refine readTable_eq_ok_iff.mpr ⟨_, _, _,
    rows c.labels (c.datasets.map Dataset.data), rfl, hnames, by simpa using h.nonempty, ?_, ?_⟩
  · rw [hinked]
    exact hrows
  · rw [labels_rows, columns_rows h.rectangular]

end WritableTable

end Writer

end Widgetry
