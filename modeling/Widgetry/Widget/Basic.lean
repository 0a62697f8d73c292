import Widgetry.Keyword
import Widgetry.Json.Basic

/-!
# Widgets

What a block of the widget language describes: inputs, charts, questions, quizzes, and forms that
hold other widgets. Each kind of widget is a structure of its own and `Widget` is their sum; only
forms are recursive.

A block that is still arriving is described by a `Preview`: a whole widget where one can already be
read, a preview of a quiz, a form or a chart, or a stub that knows little more than the keyword.
-/

namespace Widgetry

/-! ## Inputs -/

structure TextInput where
  id : Option Text
  label : Option Text
  placeholder : Option Text
  initial : Option Text
deriving Repr, DecidableEq

/-- One choice out of several: a row of buttons or a selection list. -/
structure ChoiceInput where
  id : Option Text
  label : Option Text
  choices : List Text
  initial : Option Text
deriving Repr, DecidableEq

/-- What is selected at first: one choice, or a list of them. -/
inductive Selection where
  | one (choice : Text)
  | many (choices : List Text)
deriving Repr, DecidableEq

/-- Any number of choices out of several. -/
structure MultiSelect where
  id : Option Text
  label : Option Text
  choices : List Text
  initial : Option Selection
deriving Repr, DecidableEq

structure Slider where
  id : Option Text
  label : Option Text
  min : Number
  max : Number
  step : Number
  initial : Option Number
deriving Repr, DecidableEq

/-! ## Charts -/

/-- A named column of a chart's table. -/
structure Dataset where
  label : Text
  data : List Number
deriving Repr, DecidableEq

/-- A chart: row labels, and a data set per column. The options are free-form JSON values. -/
structure Chart where
  kind : ChartKind
  id : Option Text
  title : Option Text
  height : Option Int
  labels : List Text
  datasets : List Dataset
  options : Option (List (Text × Json))
deriving Repr

/-! ## Questions -/

/-- A question of its own with given answers to choose from. -/
structure MultipleChoice where
  id : Option Text
  question : Text
  choices : List Text
  correctAnswer : Option Text
  showFeedback : Option Bool
deriving Repr, DecidableEq

/-- A question of its own with a written answer. -/
structure ShortAnswer where
  id : Option Text
  question : Text
  placeholder : Option Text
  correctAnswer : Option Text
  correctAnswers : Option (List Text)
  showFeedback : Option Bool
deriving Repr, DecidableEq

/-- A quiz question with given answers to choose from. -/
structure ChoiceQuestion where
  id : Text
  question : Text
  points : Int
  choices : List Text
  correctAnswer : Option Text
  /-- Is the question still arriving? Absent in a finished quiz. -/
  streaming : Option Bool
deriving Repr, DecidableEq

/-- A quiz question with a written answer. -/
structure WrittenQuestion where
  id : Text
  question : Text
  points : Int
  placeholder : Option Text
  correctAnswers : Option (List Text)
  /-- Is the question still arriving? Absent in a finished quiz. -/
  streaming : Option Bool
deriving Repr, DecidableEq

/-- A question of a quiz. -/
inductive Question where
  | choice (q : ChoiceQuestion)
  | written (q : WrittenQuestion)
deriving Repr, DecidableEq

structure Quiz where
  id : Option Text
  title : Text
  questions : List Question
  showScore : Bool
  showProgress : Bool
  passingScore : Option Int
deriving Repr, DecidableEq

/-! ## Widgets -/

inductive Widget where
  | textInput (w : TextInput)
  | buttonGroup (w : ChoiceInput)
  | select (w : ChoiceInput)
  | selectMulti (w : MultiSelect)
  | slider (w : Slider)
  | form (id : Option Text) (submitLabel : Option Text) (fields : List Widget)
  | chart (w : Chart)
  | multipleChoice (w : MultipleChoice)
  | shortAnswer (w : ShortAnswer)
  | quiz (w : Quiz)
deriving Repr

/-- The keyword of a widget. -/
def Widget.keyword : Widget → Keyword
  | textInput _ => .textInput
  | buttonGroup _ => .buttonGroup
  | select _ => .select
  | selectMulti _ => .selectMulti
  | slider _ => .slider
  | form .. => .form
  | chart w => .chart w.kind
  | multipleChoice _ => .multipleChoice
  | shortAnswer _ => .shortAnswer
  | quiz _ => .quiz

/-! ## Previews -/

structure QuizPreview where
  id : Option Text
  title : Option Text
  questions : List Question
  showScore : Option Bool
  showProgress : Option Bool
  passingScore : Option Int
  streaming : Option Bool
deriving Repr, DecidableEq

structure FormPreview where
  id : Option Text
  submitLabel : Option Text
  fields : List Widget
  streaming : Option Bool
deriving Repr

structure ChartPreview where
  kind : ChartKind
  id : Option Text
  title : Option Text
  height : Option Int
  labels : List Text
  datasets : List Dataset
  streaming : Option Bool
deriving Repr, DecidableEq

/-- A widget of which nothing but its type, and perhaps its id, is known. -/
structure Stub where
  typeName : Text
  id : Option Text
deriving Repr, DecidableEq

/-- What is known of a widget while its block arrives. -/
inductive Preview where
  | widget (w : Widget)
  | quiz (p : QuizPreview)
  | form (p : FormPreview)
  | chart (p : ChartPreview)
  | stub (s : Stub)
deriving Repr

/-- The name of the type that a preview shows. -/
def Preview.typeName : Preview → Text
  | widget w => w.keyword.text
  | quiz _ => Keyword.quiz.text
  | form _ => Keyword.form.text
  | chart p => (Keyword.chart p.kind).text
  | stub s => s.typeName

/-! ## Results -/

/-- What an unfinished block is waiting for. A flag may be absent. -/
structure Pending where
  unclosedBracket : Option Bool
  unclosedQuote : Option Bool
  awaitingQuestions : Option Bool
  awaitingFields : Option Bool
  awaitingData : Option Bool
deriving Repr, DecidableEq

/-- No flag is given. -/
def Pending.unstated : Pending := ⟨none, none, none, none, none⟩

/-- The outcome of reading a finished block. -/
structure ParseResult where
  success : Bool
  widget : Option Widget
  error : Option Text
deriving Repr

/-- A success must carry a widget and a failure must carry a text that is not empty. -/
def ParseResult.isConsistent (r : ParseResult) : Bool :=
  if r.success then r.widget.isSome else r.error.getD [] != []

/-- The outcome of reading a block that may still be arriving. -/
structure StreamingResult where
  complete : Bool
  detectedType : Option Text
  widget : Option Preview
  pending : Option Pending
  error : Option Text
deriving Repr

end Widgetry
