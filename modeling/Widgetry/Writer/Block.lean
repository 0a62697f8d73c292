import Widgetry.Writer.Line

/-!
# Writing blocks

The written form of the widgets of several lines: quizzes, charts and forms. Below the first line
stand the settings, and below them the questions, the table or the fields. A chart's id and title
can stand on its first line or, together with its height, in settings; both forms are written.
-/

namespace Widgetry.Writer

/-- Lines with line feeds between them. -/
def unlines (lines : List Text) : Text := ['\n'].intercalate lines

/-- A setting line. -/
def setting (key : String) (value : Text) : Text := key.toList ++ ": ".toList ++ value

/-! ## Quizzes -/

def questionLine : Question → Text
  | .choice q =>
    spaced QuestionKind.choice.text
      [some (quoted q.id), some (quoted q.question), some (Text.ofInt q.points),
        some (array q.choices), q.correctAnswer.map quoted]
  | .written q =>
    spaced QuestionKind.written.text
      [some (quoted q.id), some (quoted q.question), some (Text.ofInt q.points),
        q.placeholder.map quoted, q.correctAnswers.map array]

def quizSettings (q : Quiz) : List Text :=
  [setting "showScore" (flag q.showScore), setting "showProgress" (flag q.showProgress)] ++
    (q.passingScore.map fun n => setting "passingScore" (Text.ofInt n)).toList

def quiz (q : Quiz) : Text :=
  unlines (line (.quiz q) :: quizSettings q ++ q.questions.map questionLine)

/-! ## Charts -/

/-- A row of a table. -/
def tableRow (cells : List Text) : Text := [','].intercalate cells

/-- The rows of labels and columns of numbers. -/
def tableRows : List Text → List (List Number) → List Text
  | [], _ => []
  | label :: labels, columns =>
    tableRow (label :: (columns.filterMap List.head?).map number) ::
      tableRows labels (columns.map List.tail)

/-- The table of a chart, with the given text in the corner above the labels. -/
def table (corner : Text) (c : Chart) : List Text :=
  tableRow (corner :: c.datasets.map Dataset.label) ::
    tableRows c.labels (c.datasets.map Dataset.data)

/-- A chart with id and title on its first line; its height is not written. -/
def chart (corner : Text) (c : Chart) : Text := unlines (line (.chart c) :: table corner c)

def chartSettings (c : Chart) : List Text :=
  [c.id.map (setting "id"), c.title.map (setting "title"),
    c.height.map fun n => setting "height" (Text.ofInt n)].filterMap id

/-- A chart with setting lines under the bare keyword, such as its own settings in any order. -/
def chartWithSettings (corner : Text) (c : Chart) (settings : List Text) : Text :=
  unlines ((Keyword.chart c.kind).text :: settings ++ table corner c)

/-! ## Forms -/

/-- A field of a form: a line that is indented by two spaces. -/
def formField (w : Widget) : Text := ' ' :: ' ' :: line w

/-- A form, the lines below its first one being given. -/
def formWithLines (id submitLabel : Option Text) (lines : List Text) : Text :=
  unlines (line (.form id submitLabel []) :: lines)

end Widgetry.Writer
