import Widgetry.Grammar.Table
import Widgetry.Proofs.Outcome
import Widgetry.Proofs.Whole

/-!
# The shape of a table

All rows of a table that has been read have one number for each column (`length_of_readRow`), so a
table read row by row can be kept column by column: it has a data set for each column, and in each
data set a number for each row (`shape_of_readTable`).
-/

namespace Widgetry.Grammar

open Text Outcome

/-! ## Rows -/

theorem reduced_of_readCell {row column : Nat} {cell : Text} {n : Number}
    (h : readCell row cell column = .ok n) : n.Reduced := by
  unfold readCell at h
  split at h
  · rename_i m hm
    rw [← Except.ok.inj h]
    exact Number.reduced_of_read? hm
  · exact absurd h (by simp)

/-- A row has one number for each column, and its label is a cell. -/
theorem shape_of_readRow {width number : Nat} {line : Text} {row : Row}
    (h : readRow width line number = .ok row) :
    row.numbers.length = width ∧ ∀ n ∈ row.numbers, n.Reduced := by
  simp only [readRow] at h
  split at h
  · rename_i hwidth
    obtain ⟨numbers, hnumbers, rfl⟩ := map_eq_ok_iff.mp h
    constructor
    · rw [← (forall₂_of_mapM_eq_ok hnumbers).length_eq, List.length_zipIdx, hwidth]
    · intro n hn
      obtain ⟨⟨cell, column⟩, -, hcell⟩ := exists_of_mem_of_mapM_eq_ok hnumbers hn
      exact reduced_of_readCell hcell
  · exact absurd h (by simp)

/-! ## Columns -/

/-- The heads of rows that are not empty: there is one for each row, and each is in its row. -/
theorem heads_of_ne_nil {rows : List (List Number)} (h : ∀ row ∈ rows, row ≠ []) :
    (rows.filterMap List.head?).length = rows.length ∧
      ∀ n ∈ rows.filterMap List.head?, ∃ row ∈ rows, n ∈ row := by
  constructor
  · apply List.filterMap_length_eq_length.mpr
    intro row hrow
    simpa using h row hrow
  · intro n hn
    obtain ⟨row, hrow, hhead⟩ := List.mem_filterMap.mp hn
    exact ⟨row, hrow, List.mem_of_mem_head? hhead⟩

/-- **Columns of rows that are wide enough are as long as there are rows**, and hold nothing but
what the rows hold. -/
theorem shape_of_columns {names : List Text} {rows : List (List Number)}
    (h : ∀ row ∈ rows, row.length = names.length) :
    (columns names rows).length = names.length ∧
      ∀ d ∈ columns names rows,
        d.data.length = rows.length ∧ ∀ n ∈ d.data, ∃ row ∈ rows, n ∈ row := by
  induction names generalizing rows with
  | nil => simp [columns]
  | cons name names ih =>
    have htails : ∀ row ∈ rows.map List.tail, row.length = names.length := by
      intro row hrow
      obtain ⟨row, hmem, rfl⟩ := List.mem_map.mp hrow
      rw [List.length_tail, h row hmem]
      rfl
    obtain ⟨hlength, hdata⟩ := ih htails
    refine ⟨by rw [columns, List.length_cons, hlength, List.length_cons], ?_⟩
    intro d hd
    rw [columns, List.mem_cons] at hd
    rcases hd with rfl | hd
    · -- the first column takes the head of every row, and no row is empty
      apply heads_of_ne_nil
      intro row hrow hnil
      have hwidth := h row hrow
      rw [hnil] at hwidth
      exact absurd hwidth (by simp)
    · obtain ⟨hcount, hmem⟩ := hdata d hd
      refine ⟨by rw [hcount, List.length_map], ?_⟩
      intro n hn
      obtain ⟨tail, htail, hn⟩ := hmem n hn
      obtain ⟨row, hrow, rfl⟩ := List.mem_map.mp htail
      exact ⟨row, hrow, List.mem_of_mem_tail hn⟩

/-! ## Tables -/

/-- What a table is read from: a header of at least two cells, and a row for each line with ink
below it. -/
theorem readTable_eq_ok_iff {ls : List Text} {table : Table} :
    readTable ls = .ok table ↔
      ∃ (header : Text) (rest names : List Text) (rows : List Row),
        ls = header :: rest ∧ names = (cells (trim header)).2 ∧ names ≠ [] ∧
          ((inked rest).zipIdx 2).mapM (fun x => readRow names.length x.1 x.2) = .ok rows ∧
          table = ⟨rows.map Row.label, columns names (rows.map Row.numbers)⟩ := by
  constructor
  · intro h
    unfold readTable at h
    split at h
    · exact absurd h (by simp)
    · rename_i header rest
      split at h
      · exact absurd h (by simp)
      · split at h
        · exact absurd h (by simp)
        · rename_i names hnames hcells
          obtain ⟨rows, hrows, h⟩ := bind_eq_ok_iff.mp h
          exact ⟨header, rest, names, rows, rfl, by rw [hcells], hnames, hrows,
            (pure_eq_ok_iff.mp h).symm⟩
  · rintro ⟨header, rest, names, rows, rfl, rfl, hne, hrows, rfl⟩
    unfold readTable
    dsimp only
    split
    · rename_i hnil
      rw [hnil] at hne
      exact absurd rfl hne
    · split
      · rename_i hcells
        rw [hcells] at hne
        exact absurd rfl hne
      · rename_i hcells
        rw [hcells] at hrows ⊢
        exact bind_eq_ok_iff.mpr ⟨rows, hrows, rfl⟩

/-- **The shape of a table**: there is a data set, each has a number for each row, and the numbers
are reduced. -/
theorem shape_of_readTable {ls : List Text} {table : Table} (h : readTable ls = .ok table) :
    table.datasets ≠ [] ∧
      ∀ d ∈ table.datasets,
        d.data.length = table.labels.length ∧ ∀ n ∈ d.data, n.Reduced := by
  obtain ⟨header, rest, names, rows, -, -, hne, hrows, rfl⟩ := readTable_eq_ok_iff.mp h
  have hshape : ∀ row ∈ rows, row.numbers.length = names.length ∧ ∀ n ∈ row.numbers, n.Reduced := by
    intro row hrow
    obtain ⟨x, -, hx⟩ := exists_of_mem_of_mapM_eq_ok hrows hrow
    exact shape_of_readRow hx
  have hwidth : ∀ row ∈ rows.map Row.numbers, row.length = names.length := by
    intro numbers hnumbers
    obtain ⟨row, hrow, rfl⟩ := List.mem_map.mp hnumbers
    exact (hshape row hrow).1
  obtain ⟨hlength, hdata⟩ := shape_of_columns hwidth
  constructor
  · intro hnil
    have hzero := congrArg List.length hnil
    exact hne (List.length_eq_zero_iff.mp (hlength.symm.trans hzero))
  · intro d hd
    obtain ⟨hcount, hmem⟩ := hdata d hd
    refine ⟨by rw [hcount, List.length_map, List.length_map], ?_⟩
    intro n hn
    obtain ⟨numbers, hnumbers, hn⟩ := hmem n hn
    obtain ⟨row, hrow, rfl⟩ := List.mem_map.mp hnumbers
    exact (hshape row hrow).2 n hn

end Widgetry.Grammar
