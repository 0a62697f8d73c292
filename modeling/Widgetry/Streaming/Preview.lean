import Widgetry.Grammar.Block
import Widgetry.Streaming.Quiz

/-!
# Previews

What is shown for a block that is not finished: the quiz, form or chart as far as it has arrived;
for a widget of one line the widget itself if closing an open bracket completes it, and else a stub.
-/

namespace Widgetry.Streaming

/-! ## Forms and charts -/

/-- The form as far as it has arrived. An open array in a field is closed. -/
def previewForm (source : Text) : FormPreview :=
  let (first, body) := Text.lines source
  let header := (tokenize first).tail
  { id := some (header[0]?.getD pendingId)
    submitLabel := header[1]?
    fields := body.filterMap fun line =>
      (Grammar.fieldText? line).bind fun field => (Grammar.parse (complete field)).toOption
    streaming := true }

/-- Reads the id and the title from the lines after the first one. Lines with a colon are settings;
the table begins at the first other line that has a comma. -/
def previewChartHeader (id title : Option Text) : List Text → Option Text × Option Text
  | [] => (id, title)
  | line :: rest =>
    match Grammar.readSetting? (Text.trim line) with
    | some (key, value) =>
      match Grammar.ChartKey.ofText? key with
      | some .id => previewChartHeader value title rest
      | some .title => previewChartHeader id value rest
      | _ => previewChartHeader id title rest
    | none => if line.contains ',' then (id, title) else previewChartHeader id title rest

/-- The chart as far as it has arrived: its table is not shown. -/
def previewChart (kind : ChartKind) (source : Text) : ChartPreview :=
  let (first, body) := Text.lines source
  let header := (tokenize first).tail
  let (id, title) := previewChartHeader (some (header[0]?.getD pendingId)) header[1]? body
  ⟨kind, id, title, none, [], [], true⟩

/-! ## All blocks -/

/-- What is known of a block of one line besides its type: at most its id. -/
def stub (typeName source : Text) : Stub :=
  ⟨typeName, some ((tokenize (Text.lines source).1)[1]?.getD pendingId)⟩

/-- The answer for a block that is not finished. -/
def unfinished (typeName : Text) (shown : Preview) (pending : Pending) : StreamingResult where
  complete := false
  detectedType := typeName
  widget := shown
  pending := pending
  error := none

/-- The preview of a block of one line. -/
def previewLine (typeName source : Text) (pending : Pending) : StreamingResult :=
  let recovered : Option Widget :=
    if pending.unclosedBracket = some true then (Grammar.parse (complete source)).toOption else none
  match recovered with
  | some w => unfinished typeName (.widget w) { Pending.unstated with unclosedBracket := true }
  | none => unfinished typeName (.stub (stub typeName source)) pending

/-- The preview of a block of the named type. Types that are no keyword are shown like blocks of one
line. -/
def preview (typeName source : Text) (pending : Pending) :
    Except OversizedInteger StreamingResult :=
  match Keyword.ofText? typeName with
  | some .quiz => (previewQuiz source).map fun quiz =>
      unfinished typeName (.quiz quiz)
        { pending with awaitingQuestions := some (quiz.questions = []) }
  | some .form =>
      .ok (unfinished typeName (.form (previewForm source))
        { pending with awaitingFields := true })
  | some (.chart kind) =>
      .ok (unfinished typeName (.chart (previewChart kind source))
        { pending with awaitingData := true })
  | _ => .ok (previewLine typeName source pending)

end Widgetry.Streaming
