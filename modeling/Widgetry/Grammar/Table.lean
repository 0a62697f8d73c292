import Widgetry.Grammar.Error
import Widgetry.Widget.Basic

/-!
# Tables

The data of a chart: a header with the names of the columns, and rows of a label and numbers. Cells
are separated by commas. Blank rows are skipped and not counted; the header is row 1. The table is
read row by row and kept column by column.
-/

namespace Widgetry.Grammar

/-- A table: the labels of its rows, and a data set for each column after the first. -/
structure Table where
  labels : List Text
  datasets : List Dataset
deriving Repr, DecidableEq

/-- A row: its label and its numbers. -/
structure Row where
  label : Text
  numbers : List Number
deriving Repr, DecidableEq

/-! ## Rows -/

/-- The number in a cell. -/
def readCell (row : Nat) (cell : Text) (column : Nat) : Except ParseError Number :=
  match Number.read? cell with
  | some n => .ok n
  | none => .error (.cellNotNumber cell row column)

/-- A row for a table of `columns` columns beside the labels. The number of cells is checked before
the cells are. -/
def readRow (columns : Nat) (line : Text) (row : Nat) : Except ParseError Row :=
  let (label, cells) := Text.cells line
  if cells.length = columns then
    ((cells.zipIdx 2).mapM fun (cell, column) => readCell row cell column).map (Row.mk label)
  else .error (.rowWidth row (cells.length + 1) (columns + 1))

/-- The lines that are not blank, trimmed. -/
def inked (ls : List Text) : List Text := (ls.map Text.trim).filter (· ≠ [])

/-! ## Columns -/

/-- A data set for each name, with the corresponding number of each row. -/
def columns : List Text → List (List Number) → List Dataset
  | [], _ => []
  | name :: names, rows => ⟨name, rows.filterMap List.head?⟩ :: columns names (rows.map List.tail)

/-- The table that the lines of a block hold. -/
def readTable : List Text → Except ParseError Table
  | [] => .error .noTable
  | header :: rest =>
    match Text.trim header with
    | [] => .error .emptyTableHeader
    | header =>
      match Text.cells header with
      | (_, []) => .error .narrowTable
      | (_, names) => do
        let rows ← ((inked rest).zipIdx 2).mapM fun (line, row) => readRow names.length line row
        return ⟨rows.map Row.label, columns names (rows.map Row.numbers)⟩

end Widgetry.Grammar
