import Widgetry.Grammar.Setting
import Widgetry.Grammar.Table
import Widgetry.Token

/-!
# Charts

A chart is a first line and a table. The first line may go on with an id and a title; if it is the
bare keyword, setting lines for the id, the title and the height may stand before the table.
-/

namespace Widgetry.Grammar

/-- What the lines before the table say. -/
structure ChartHeader where
  id : Option Text
  title : Option Text
  height : Option Int
deriving Repr, DecidableEq

/-- The settings of a chart. -/
inductive ChartKey where
  | id
  | title
  | height
deriving Repr, DecidableEq

def ChartKey.ofText? (key : Text) : Option ChartKey :=
  if key = "id".toList then some .id
  else if key = "title".toList then some .title
  else if key = "height".toList then some .height
  else none

/-- A chart setting: the key and its value. -/
def readChartSetting? (line : Text) : Option (ChartKey × Text) :=
  (readSetting? line).bind fun (key, value) => (ChartKey.ofText? key).map (·, value)

/-- The header with one more setting. A height that is no number leaves none. -/
def ChartHeader.set (h : ChartHeader) : ChartKey → Text → Except OversizedInteger ChartHeader
  | .id, value => .ok ⟨value, h.title, h.height⟩
  | .title, value => .ok ⟨h.id, value, h.height⟩
  | .height, value => (readInteger value).map fun height => ⟨h.id, h.title, height⟩

/-- Reads setting lines up to the first line that is neither blank nor a chart setting; the table
begins there. If there is no such line, it begins after the last setting (`table` holds the lines
from there on), so that blank lines at the end are read as a table. -/
def readChartHeader (h : ChartHeader) (table : List Text) :
    List Text → Except OversizedInteger (ChartHeader × List Text)
  | [] => .ok (h, table)
  | line :: rest =>
    match Text.trim line with
    | [] => readChartHeader h table rest
    | trimmed =>
      match readChartSetting? trimmed with
      | none => .ok (h, line :: rest)
      | some (key, value) =>
        match h.set key value with
        | .ok h => readChartHeader h rest rest
        | .error e => .error e

/-- The chart of a given kind that a block describes. -/
def readChart (kind : ChartKind) (source : Text) : Except ParseError Chart := do
  let (first, body) := Text.lines source
  if body = [] then
    throw (.incomplete (.chart kind))
  let (header, table) ← match (tokenize first).tail with
    | id :: rest => pure (⟨id, rest[0]?, none⟩, body)
    | [] => (readChartHeader ⟨none, none, none⟩ body body).mapError .oversized
  let table ← readTable table
  return ⟨kind, header.id, header.title, header.height, table.labels, table.datasets, none⟩

end Widgetry.Grammar
