import Widgetry.Widget.Basic

/-!
# The parts of a widget

The parts of a widget by their kind: the texts that stand alone, the lists of texts, the numbers,
and the fields of a form. The questions of a quiz have parts of their own.
-/

namespace Widgetry

/-- Does the keyword open a chart? -/
def Keyword.isChart : Keyword → Bool
  | chart _ => true
  | _ => false

/-! ## Questions -/

namespace Question

/-- The kind of a question. -/
def kind : Question → QuestionKind
  | choice _ => .choice
  | written _ => .written

def id : Question → Text
  | choice q => q.id
  | written q => q.id

def points : Question → Int
  | choice q => q.points
  | written q => q.points

/-- Is the question still arriving? -/
def streaming : Question → Option Bool
  | choice q => q.streaming
  | written q => q.streaming

/-- The texts of a question that stand alone. -/
def scalars : Question → List Text
  | choice q => q.id :: q.question :: q.correctAnswer.toList
  | written q => q.id :: q.question :: q.placeholder.toList

/-- The lists of texts of a question. -/
def lists : Question → List (List Text)
  | choice q => [q.choices]
  | written q => q.correctAnswers.toList

end Question

/-! ## Widgets -/

namespace Selection

def scalars : Selection → List Text
  | one choice => [choice]
  | many _ => []

def lists : Selection → List (List Text)
  | one _ => []
  | many choices => [choices]

end Selection

namespace Widget

def id? : Widget → Option Text
  | textInput w => w.id
  | buttonGroup w | select w => w.id
  | selectMulti w => w.id
  | slider w => w.id
  | form id _ _ => id
  | chart w => w.id
  | multipleChoice w => w.id
  | shortAnswer w => w.id
  | quiz w => w.id

/-- The texts of a widget that stand alone, as far as they are set. -/
def scalars : Widget → List Text
  | textInput w => [w.id, w.label, w.placeholder, w.initial].filterMap id
  | buttonGroup w | select w => [w.id, w.label, w.initial].filterMap id
  | selectMulti w => [w.id, w.label].filterMap id ++ w.initial.toList.flatMap Selection.scalars
  | slider w => [w.id, w.label].filterMap id
  | form ownId submitLabel _ => [ownId, submitLabel].filterMap id
  | chart w => [w.id, w.title].filterMap id
  | multipleChoice w => [w.id, some w.question, w.correctAnswer].filterMap id
  | shortAnswer w => [w.id, some w.question, w.placeholder, w.correctAnswer].filterMap id
  | quiz w => [w.id, some w.title].filterMap id

/-- The lists of texts of a widget, as far as they are set. The names of a chart's rows and columns
are cells of its table and not among them. -/
def lists : Widget → List (List Text)
  | buttonGroup w | select w => [w.choices]
  | selectMulti w => w.choices :: w.initial.toList.flatMap Selection.lists
  | multipleChoice w => [w.choices]
  | shortAnswer w => w.correctAnswers.toList
  | _ => []

/-- The numbers of a widget that may be fractions. -/
def numbers : Widget → List Number
  | slider w => w.min :: w.max :: w.step :: w.initial.toList
  | chart w => w.datasets.flatMap Dataset.data
  | _ => []

/-- The fields of a form. -/
def fields : Widget → List Widget
  | form _ _ fields => fields
  | _ => []

end Widget

end Widgetry
