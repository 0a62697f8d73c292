import Widgetry.Proofs.Tables

/-!
# Tables transpose their lines

A table is read from lines of cells and kept by columns: cell `j` of row `i` is number `i` of data set
`j` (`Transposes`). It is read exactly if every row has as many cells as the header and every cell
but the first begins with a number (`Tabular`). Otherwise the error is that of the first row that has
a fault, and of its leftmost cell that is no number (`Fault`). Together the three say all that
reading a table does (`readTable_transposes`).
-/

namespace Widgetry.Grammar

open Text Outcome

/-! ## Cells -/

theorem readCell_eq_ok_iff {row column : Nat} {cell : Text} {n : Number} :
    readCell row cell column = .ok n ↔ Number.read? cell = some n := by
  unfold readCell
  split
  · rename_i m hm
    simp [hm]
  · rename_i hnone
    simp [hnone]

theorem readCell_eq_error_iff {row column : Nat} {cell : Text} {e : ParseError} :
    readCell row cell column = .error e ↔
      Number.read? cell = none ∧ e = .cellNotNumber cell row column := by
  unfold readCell
  split
  · rename_i m hm
    simp [hm]
  · rename_i hnone
    simp [hnone, eq_comm]

/-! ## Rows -/

/-- The row has the first cell of the line as its label, and the numbers of the other cells. -/
structure RowOf (width : Nat) (line : Text) (row : Row) : Prop where
  width : (cells line).2.length = width
  label : row.label = (cells line).1
  numbers : (cells line).2.map Number.read? = row.numbers.map some

/-- The line has one cell for each column beside the label, and a number in each of them. -/
structure SoundRow (width : Nat) (line : Text) : Prop where
  width : (cells line).2.length = width
  numeric : ∀ cell ∈ (cells line).2, (Number.read? cell).isSome = true

/-- What is wrong with a line that is no row: the number of its cells, and only if that is right the
leftmost cell without a number. -/
inductive RowFault (width : Nat) (line : Text) (number : Nat) : ParseError → Prop
  | width (h : (cells line).2.length ≠ width) :
      RowFault width line number (.rowWidth number ((cells line).2.length + 1) (width + 1))
  | cell {j : Nat} {cell : Text} (h : (cells line).2.length = width)
      (hcell : (cells line).2[j]? = some cell) (hnone : Number.read? cell = none)
      (hleft : ∀ k < j, ∀ c, (cells line).2[k]? = some c → (Number.read? c).isSome = true) :
      RowFault width line number (.cellNotNumber cell number (2 + j))

section Rows

variable {width number : Nat} {line : Text}

namespace RowOf

variable {row : Row} (h : RowOf width line row)
include h

theorem length_numbers : row.numbers.length = width := by
  have hlength := congrArg List.length h.numbers
  rw [List.length_map, List.length_map] at hlength
  rw [← hlength, h.width]

theorem getElem?_numbers (j : Nat) : row.numbers[j]? = (cells line).2[j]?.bind Number.read? := by
  have hcell : (cells line).2[j]?.map Number.read? = row.numbers[j]?.map some := by
    rw [← List.getElem?_map, ← List.getElem?_map, h.numbers]
  cases hj : (cells line).2[j]? with
  | none =>
    rw [hj] at hcell
    exact Option.map_eq_none_iff.mp hcell.symm
  | some cell =>
    rw [hj] at hcell
    obtain ⟨n, hn, hread⟩ := Option.map_eq_some_iff.mp hcell.symm
    exact hn.trans hread

theorem sound : SoundRow width line := by
  refine ⟨h.width, fun cell hcell => ?_⟩
  have hmem : Number.read? cell ∈ row.numbers.map some := h.numbers ▸ List.mem_map_of_mem hcell
  obtain ⟨n, -, hn⟩ := List.mem_map.mp hmem
  rw [← hn]
  rfl

end RowOf

theorem readRow_eq_ok_iff {row : Row} :
    readRow width line number = .ok row ↔ RowOf width line row := by
  have hcells : ∀ numbers : List Number,
      ((cells line).2.zipIdx 2).mapM (fun x => readCell number x.1 x.2) = .ok numbers ↔
        (cells line).2.map Number.read? = numbers.map some := by
    intro numbers
    rw [mapM_zipIdx_eq_ok_iff (R := fun cell n => Number.read? cell = some n)
        fun cell column n => readCell_eq_ok_iff,
      ← List.forall₂_eq_eq_eq, List.forall₂_map_left_iff, List.forall₂_map_right_iff]
  constructor
  · intro h
    simp only [readRow] at h
    split at h
    · rename_i hwidth
      obtain ⟨numbers, hnumbers, rfl⟩ := map_eq_ok_iff.mp h
      exact ⟨hwidth, rfl, (hcells numbers).mp hnumbers⟩
    · exact absurd h (by simp)
  · rintro ⟨hwidth, hlabel, hnumbers⟩
    simp only [readRow, if_pos hwidth]
    refine map_eq_ok_iff.mpr ⟨row.numbers, (hcells row.numbers).mpr hnumbers, ?_⟩
    rw [← hlabel]

theorem readRow_eq_error_iff {e : ParseError} :
    readRow width line number = .error e ↔ RowFault width line number e := by
  constructor
  · intro h
    simp only [readRow] at h
    split at h
    · rename_i hwidth
      obtain ⟨j, cell, hcell, hfails, hleft⟩ :=
        mapM_zipIdx_eq_error_iff.mp (map_eq_error_iff.mp h)
      obtain ⟨hnone, rfl⟩ := readCell_eq_error_iff.mp hfails
      refine .cell hwidth hcell hnone fun k hk c hc => ?_
      obtain ⟨n, hn⟩ := hleft k hk c hc
      rw [readCell_eq_ok_iff.mp hn]
      rfl
    · rename_i hwidth
      rw [← Except.error.inj h]
      exact .width hwidth
  · rintro (hwidth | ⟨hwidth, hcell, hnone, hleft⟩)
    · simp only [readRow, if_neg hwidth]
    · simp only [readRow, if_pos hwidth]
      refine map_eq_error_iff.mpr (mapM_zipIdx_eq_error_iff.mpr
        ⟨_, _, hcell, readCell_eq_error_iff.mpr ⟨hnone, rfl⟩, fun k hk c hc => ?_⟩)
      obtain ⟨n, hn⟩ := Option.isSome_iff_exists.mp (hleft k hk c hc)
      exact ⟨n, readCell_eq_ok_iff.mpr hn⟩

theorem not_soundRow_of_rowFault {e : ParseError} (h : RowFault width line number e) :
    ¬ SoundRow width line := by
  rintro ⟨hwidth, hnumeric⟩
  cases h with
  | width hne => exact hne hwidth
  | cell _ hcell hnone _ =>
    have hsome := hnumeric _ (List.mem_of_getElem? hcell)
    rw [hnone] at hsome
    exact absurd hsome (by simp)

theorem exists_readRow_eq_ok_iff :
    (∃ row, readRow width line number = .ok row) ↔ SoundRow width line := by
  constructor
  · rintro ⟨row, hrow⟩
    exact (readRow_eq_ok_iff.mp hrow).sound
  · intro hsound
    cases h : readRow width line number with
    | ok row => exact ⟨row, rfl⟩
    | error e => exact absurd hsound (not_soundRow_of_rowFault (readRow_eq_error_iff.mp h))

end Rows

/-! ## Columns -/

/-- A column takes the number at its place from every row. -/
theorem getElem?_columns (names : List Text) (rows : List (List Number)) (j : Nat) :
    (columns names rows)[j]? =
      names[j]?.map fun name => ⟨name, rows.filterMap fun row => row[j]?⟩ := by
  induction names generalizing rows j with
  | nil => rfl
  | cons name names ih =>
    cases j with
    | zero =>
      have hheads : (fun row : List Number => row[0]?) = List.head? := by
        funext row
        rw [List.head?_eq_getElem?]
      rw [columns, hheads]
      rfl
    | succ j =>
      rw [columns, List.getElem?_cons_succ, List.getElem?_cons_succ, ih, List.filterMap_map]
      have htails : (fun row : List Number => row[j]?) ∘ List.tail = fun row => row[j + 1]? := by
        funext row
        rw [Function.comp_apply, List.getElem?_tail]
      rw [htails]

theorem names_columns (names : List Text) (rows : List (List Number)) :
    (columns names rows).map Dataset.label = names := by
  induction names generalizing rows with
  | nil => rfl
  | cons name names ih => rw [columns, List.map_cons, ih]

/-- Where every member gives a value, the values keep the positions of the members. -/
theorem getElem?_filterMap_of_isSome {α β : Type} {f : α → Option β} {xs : List α}
    (h : ∀ x ∈ xs, (f x).isSome = true) (i : Nat) : (xs.filterMap f)[i]? = xs[i]?.bind f := by
  induction xs generalizing i with
  | nil => rfl
  | cons x xs ih =>
    obtain ⟨y, hy⟩ := Option.isSome_iff_exists.mp (h x List.mem_cons_self)
    rw [List.filterMap_cons_some hy]
    cases i with
    | zero => exact hy.symm
    | succ i => exact ih (fun z hz => h z (List.mem_cons_of_mem x hz)) i

/-! ## Tables -/

/-- The names of the columns: the cells of the first line after its first one. -/
def columnNames (ls : List Text) : List Text := (cells (trim (ls.headD []))).2

/-- The lines of the rows: those with ink below the first line. -/
def rowLines (ls : List Text) : List Text := inked ls.tail

/-- The lines hold a table. -/
structure Tabular (ls : List Text) : Prop where
  header : ∃ first ∈ ls.head?, trim first ≠ []
  named : columnNames ls ≠ []
  rows : ∀ line ∈ rowLines ls, SoundRow (columnNames ls).length line

/-- **The table is the transposed one of the lines.** It has the first cells of the rows as labels
and a data set for each name, and number `i` of data set `j` is the number in the cell of row `i`
under name `j`; where there is no such cell there is no such number. -/
structure Transposes (ls : List Text) (table : Table) : Prop where
  labels : table.labels = (rowLines ls).map fun line => (cells line).1
  names : table.datasets.map Dataset.label = columnNames ls
  data : ∀ j i : Nat, (table.datasets[j]?.bind fun d => d.data[i]?) =
    (rowLines ls)[i]?.bind fun line => (cells line).2[j]?.bind Number.read?

/-- What is wrong with lines that hold no table: the header, or the first row with a fault. The
header is row 1, and the rows with ink below it are numbered from 2 on. -/
inductive Fault (ls : List Text) : ParseError → Prop
  | noTable (h : ls = []) : Fault ls .noTable
  | emptyHeader {first : Text} (h : ls.head? = some first) (hblank : trim first = []) :
      Fault ls .emptyTableHeader
  | narrow {first : Text} (h : ls.head? = some first) (hink : trim first ≠ [])
      (hnarrow : columnNames ls = []) : Fault ls .narrowTable
  | row {i : Nat} {line : Text} {e : ParseError} (hnamed : columnNames ls ≠ [])
      (hline : (rowLines ls)[i]? = some line)
      (hfault : RowFault (columnNames ls).length line (2 + i) e)
      (habove : ∀ k < i, ∀ l, (rowLines ls)[k]? = some l → SoundRow (columnNames ls).length l) :
      Fault ls e

section Tables

variable {ls : List Text}

/-- Only a line with ink has two cells. -/
theorem exists_header_of_named (h : columnNames ls ≠ []) : ∃ first ∈ ls.head?, trim first ≠ [] := by
  cases ls with
  | nil => exact absurd rfl h
  | cons first rest =>
    refine ⟨first, rfl, fun hnil => h ?_⟩
    rw [columnNames, List.headD_cons, hnil]
    rfl

theorem not_tabular_of_fault {e : ParseError} (h : Fault ls e) : ¬ Tabular ls := by
  rintro ⟨⟨first, hfirst, hink⟩, hnamed, hrows⟩
  cases h with
  | noTable h => exact absurd hfirst (by simp [h])
  | emptyHeader h hblank => exact hink (Option.some.inj (hfirst.symm.trans h) ▸ hblank)
  | narrow _ _ hnarrow => exact hnamed hnarrow
  | row _ hline hfault _ =>
    exact not_soundRow_of_rowFault hfault (hrows _ (List.mem_of_getElem? hline))

theorem readTable_of_named (h : columnNames ls ≠ []) :
    readTable ls =
      ((rowLines ls).zipIdx 2).mapM (fun x => readRow (columnNames ls).length x.1 x.2) >>=
        fun rows => .ok ⟨rows.map Row.label, columns (columnNames ls) (rows.map Row.numbers)⟩ := by
  obtain ⟨first, hfirst, hink⟩ := exists_header_of_named h
  obtain ⟨rest, rfl⟩ := List.head?_eq_some_iff.mp hfirst
  rw [columnNames, List.headD_cons] at h ⊢
  rw [readTable, rowLines, List.tail_cons]
  split
  · rename_i hnil
    exact absurd hnil hink
  · split
    · rename_i hcells
      rw [hcells] at h
      exact absurd rfl h
    · rename_i hcells
      rw [hcells]
      rfl

theorem readTable_eq_error_iff {e : ParseError} : readTable ls = .error e ↔ Fault ls e := by
  have hrow : columnNames ls ≠ [] → (readTable ls = .error e ↔
      ∃ i line, (rowLines ls)[i]? = some line ∧
        RowFault (columnNames ls).length line (2 + i) e ∧
        ∀ k < i, ∀ l, (rowLines ls)[k]? = some l → SoundRow (columnNames ls).length l) := by
    intro hnamed
    rw [readTable_of_named hnamed, bind_eq_error_iff]
    simp only [reduceCtorEq, and_false, exists_false, or_false, mapM_zipIdx_eq_error_iff,
      readRow_eq_error_iff, exists_readRow_eq_ok_iff]
  constructor
  · intro h
    by_cases hnamed : columnNames ls = []
    · cases ls with
      | nil =>
        rw [← Except.error.inj h]
        exact .noTable rfl
      | cons first rest =>
        rw [readTable] at h
        split at h
        · rename_i hblank
          rw [← Except.error.inj h]
          exact .emptyHeader rfl hblank
        · rename_i hink
          rw [columnNames, List.headD_cons] at hnamed
          split at h
          · rw [← Except.error.inj h]
            exact .narrow rfl hink hnamed
          · rename_i hne hcells
            rw [hcells] at hnamed
            exact absurd hnamed hne
    · obtain ⟨i, line, hline, hfault, habove⟩ := (hrow hnamed).mp h
      exact .row hnamed hline hfault habove
  · rintro (rfl | ⟨hfirst, hblank⟩ | ⟨hfirst, hink, hnarrow⟩ | ⟨hnamed, hline, hfault, habove⟩)
    · rfl
    · obtain ⟨rest, rfl⟩ := List.head?_eq_some_iff.mp hfirst
      simp only [readTable, hblank]
    · obtain ⟨rest, rfl⟩ := List.head?_eq_some_iff.mp hfirst
      rw [columnNames, List.headD_cons] at hnarrow
      rw [readTable]
      split
      · rename_i hnil
        exact absurd hnil hink
      · split
        · rfl
        · rename_i hne hcells
          rw [hcells] at hnarrow
          exact absurd hnarrow hne
    · exact (hrow hnamed).mpr ⟨_, _, hline, hfault, habove⟩

/-- A table comes from one row for each of its lines. -/
theorem rows_of_readTable {table : Table} (h : readTable ls = .ok table) :
    columnNames ls ≠ [] ∧ ∃ rows,
      List.Forall₂ (RowOf (columnNames ls).length) (rowLines ls) rows ∧
        table = ⟨rows.map Row.label, columns (columnNames ls) (rows.map Row.numbers)⟩ := by
  obtain ⟨header, rest, names, rows, rfl, rfl, hnamed, hrows, htable⟩ := readTable_eq_ok_iff.mp h
  exact ⟨hnamed, rows,
    (mapM_zipIdx_eq_ok_iff fun line n row => readRow_eq_ok_iff).mp hrows, htable⟩

theorem exists_readTable_eq_ok_iff : (∃ table, readTable ls = .ok table) ↔ Tabular ls := by
  constructor
  · rintro ⟨table, h⟩
    obtain ⟨hnamed, rows, hrows, -⟩ := rows_of_readTable h
    refine ⟨exists_header_of_named hnamed, hnamed, fun line hline => ?_⟩
    obtain ⟨row, -, hrow⟩ := exists_of_mem_forall₂ hrows hline
    exact hrow.sound
  · intro htabular
    cases h : readTable ls with
    | ok table => exact ⟨table, rfl⟩
    | error e => exact absurd htabular (not_tabular_of_fault (readTable_eq_error_iff.mp h))

theorem labels_of_rows {width : Nat} {lines : List Text} {rows : List Row}
    (h : List.Forall₂ (RowOf width) lines rows) :
    rows.map Row.label = lines.map fun line => (cells line).1 := by
  induction h with
  | nil => rfl
  | cons hrow _ ih => rw [List.map_cons, List.map_cons, hrow.label, ih]

/-- The numbers of rows that have been read stand where the cells of their lines stand. -/
theorem getElem?_numbers {width : Nat} {lines : List Text} {rows : List Row}
    (h : List.Forall₂ (RowOf width) lines rows) (i j : Nat) :
    ((rows.map Row.numbers)[i]?.bind fun numbers => numbers[j]?) =
      lines[i]?.bind fun line => (cells line).2[j]?.bind Number.read? := by
  induction h generalizing i with
  | nil => rfl
  | cons hrow _ ih =>
    cases i with
    | zero => exact hrow.getElem?_numbers j
    | succ i => exact ih i

theorem transposes_of_rows {rows : List Row}
    (h : List.Forall₂ (RowOf (columnNames ls).length) (rowLines ls) rows) :
    Transposes ls ⟨rows.map Row.label, columns (columnNames ls) (rows.map Row.numbers)⟩ := by
  have hwidth : ∀ numbers ∈ rows.map Row.numbers, numbers.length = (columnNames ls).length := by
    intro numbers hnumbers
    obtain ⟨row, hrow, rfl⟩ := List.mem_map.mp hnumbers
    obtain ⟨line, -, hrow⟩ := exists_of_mem_forall₂ h.flip hrow
    exact hrow.length_numbers
  refine ⟨labels_of_rows h, names_columns _ _, fun j i => ?_⟩
  rw [← getElem?_numbers h, getElem?_columns]
  cases hname : (columnNames ls)[j]? with
  | none =>
    -- no row is wider than there are names
    have hj := List.getElem?_eq_none_iff.mp hname
    cases hrow : (rows.map Row.numbers)[i]? with
    | none => rfl
    | some numbers =>
      have hlength := hwidth numbers (List.mem_of_getElem? hrow)
      exact (List.getElem?_eq_none (hlength.symm ▸ hj)).symm
  | some name =>
    obtain ⟨hj, -⟩ := List.getElem?_eq_some_iff.mp hname
    apply getElem?_filterMap_of_isSome
    intro numbers hnumbers
    simpa [hwidth numbers hnumbers] using hj

/-- Lines have one transposed table. -/
theorem Transposes.unique {table table' : Table} (h : Transposes ls table)
    (h' : Transposes ls table') : table = table' := by
  obtain ⟨labels, datasets⟩ := table
  obtain ⟨labels', datasets'⟩ := table'
  obtain rfl : labels = labels' := h.labels.trans h'.labels.symm
  have hdatasets : datasets = datasets' := by
    apply List.ext_getElem?
    intro j
    have hname : datasets[j]?.map Dataset.label = datasets'[j]?.map Dataset.label := by
      rw [← List.getElem?_map, ← List.getElem?_map]
      exact congrArg (fun names => names[j]?) (h.names.trans h'.names.symm)
    have hdata : ∀ i, (datasets[j]?.bind fun d => d.data[i]?) =
        datasets'[j]?.bind fun d => d.data[i]? := fun i => (h.data j i).trans (h'.data j i).symm
    cases hd : datasets[j]? with
    | none => simpa [hd] using hname
    | some d =>
      obtain ⟨d', hd', hlabel⟩ : ∃ d', datasets'[j]? = some d' ∧ d'.label = d.label := by
        rw [hd] at hname
        exact Option.map_eq_some_iff.mp hname.symm
      rw [hd, hd'] at hdata
      have hnumbers : d.data = d'.data := List.ext_getElem? hdata
      rw [hd']
      obtain ⟨label, data⟩ := d
      obtain ⟨label', data'⟩ := d'
      obtain rfl : label' = label := hlabel
      obtain rfl : data = data' := hnumbers
      rfl
  rw [hdatasets]

end Tables

/-- **All that reading a table does.** Lines are read exactly if they hold a table, the table that is
read is the transposed one of the lines and no other, and an error tells the first fault. -/
theorem readTable_transposes (ls : List Text) :
    ((∃ table, readTable ls = .ok table) ↔ Tabular ls) ∧
      (∀ table, readTable ls = .ok table ↔ Tabular ls ∧ Transposes ls table) ∧
      ∀ e, readTable ls = .error e ↔ Fault ls e := by
  refine ⟨exists_readTable_eq_ok_iff, fun table => ?_, fun e => readTable_eq_error_iff⟩
  constructor
  · intro h
    obtain ⟨-, rows, hrows, rfl⟩ := rows_of_readTable h
    exact ⟨exists_readTable_eq_ok_iff.mp ⟨_, h⟩, transposes_of_rows hrows⟩
  · rintro ⟨htabular, htransposes⟩
    obtain ⟨table', h⟩ := exists_readTable_eq_ok_iff.mpr htabular
    obtain ⟨-, rows, hrows, rfl⟩ := rows_of_readTable h
    rw [h, htransposes.unique (transposes_of_rows hrows)]

/-- The blank line is not counted, and the number of cells is looked at before the cells are. -/
example : readTable ["Month,A,B".toList, "  ".toList, "Jan,1,2".toList, "Feb,x".toList] =
    .error (.rowWidth 3 2 3) := by decide +kernel

example : readTable ["Month,A,B".toList, "Jan,1,2".toList, "Feb,x,y".toList, "Mar".toList] =
    .error (.cellNotNumber ['x'] 3 2) := by decide +kernel

end Widgetry.Grammar
