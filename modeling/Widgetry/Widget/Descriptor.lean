import Widgetry.Widget.Nesting

/-!
# Descriptors

The JSON form of widgets and results. A part that is absent is left out; an empty text, an empty
list, `false` and zero are written. Keys are in camel case, and the mark of a widget that is still
arriving is the key `_streaming`. Numbers among the options of a chart that are not finite are
written as `null`.

The free-form options of a chart may be nested deeper than can be written. `toJson` gives the JSON
form whatever its nesting, and `descriptor` the form that the guard lets pass, or the reason why
there is none.
-/

namespace Widgetry

/-! ## Members -/

namespace Descriptor

/-- A text under a key, if there is one. -/
def text (key : String) (t : Option Text) : Text × Option Json := (key.toList, t.map .str)

/-- A list of texts under a key, if there is one. -/
def texts (key : String) (ts : Option (List Text)) : Text × Option Json :=
  (key.toList, ts.map .ofTexts)

/-- A truth value under a key, if there is one. -/
def flag (key : String) (b : Option Bool) : Text × Option Json := (key.toList, b.map .bool)

/-- An integer under a key, if there is one. -/
def integer (key : String) (n : Option Int) : Text × Option Json := (key.toList, n.map .int)

/-- A number under a key, if there is one. -/
def number (key : String) (n : Option Number) : Text × Option Json := (key.toList, n.map .ofNumber)

/-- Any value under a key, if there is one. -/
def value (key : String) (v : Option Json) : Text × Option Json := (key.toList, v)

/-- The object with the members that are present. -/
def object (members : List (Text × Option Json)) : Json :=
  .obj (members.filterMap fun (key, value) => value.map (key, ·))

end Descriptor

open Descriptor

/-! ## Widgets without parts -/

/-- The member that tells the type. -/
def Keyword.member (k : Keyword) : Text × Option Json := Descriptor.text "type" k.text

def TextInput.toJson (w : TextInput) : Json :=
  object [Keyword.textInput.member, text "id" w.id, text "label" w.label,
    text "placeholder" w.placeholder, text "default" w.initial]

/-- Button groups and selection lists differ in their type only. -/
def ChoiceInput.toJson (k : Keyword) (w : ChoiceInput) : Json :=
  object [k.member, text "id" w.id, text "label" w.label, texts "choices" w.choices,
    text "default" w.initial]

def Selection.toJson : Selection → Json
  | one choice => .str choice
  | many choices => .ofTexts choices

def MultiSelect.toJson (w : MultiSelect) : Json :=
  object [Keyword.selectMulti.member, text "id" w.id, text "label" w.label,
    texts "choices" w.choices, value "default" (w.initial.map Selection.toJson)]

def Slider.toJson (w : Slider) : Json :=
  object [Keyword.slider.member, text "id" w.id, text "label" w.label, number "min" w.min,
    number "max" w.max, number "step" w.step, number "default" w.initial]

def Dataset.toJson (d : Dataset) : Json :=
  object [text "label" d.label, value "data" (Json.arr (d.data.map .ofNumber))]

def Chart.toJson (w : Chart) : Json :=
  object [(Keyword.chart w.kind).member, text "id" w.id, text "title" w.title,
    integer "height" w.height, texts "labels" w.labels,
    value "datasets" (Json.arr (w.datasets.map Dataset.toJson)),
    value "options" (w.options.map fun members => .obj (Json.writableMembers members))]

/-! ## Questions -/

def MultipleChoice.toJson (w : MultipleChoice) : Json :=
  object [Keyword.multipleChoice.member, text "id" w.id, text "question" w.question,
    texts "choices" w.choices, text "correctAnswer" w.correctAnswer,
    flag "showFeedback" w.showFeedback]

def ShortAnswer.toJson (w : ShortAnswer) : Json :=
  object [Keyword.shortAnswer.member, text "id" w.id, text "question" w.question,
    text "placeholder" w.placeholder, text "correctAnswer" w.correctAnswer,
    texts "correctAnswers" w.correctAnswers, flag "showFeedback" w.showFeedback]

def ChoiceQuestion.toJson (q : ChoiceQuestion) : Json :=
  object [text "type" QuestionKind.choice.text, text "id" q.id, text "question" q.question,
    integer "points" q.points, texts "choices" q.choices, text "correctAnswer" q.correctAnswer,
    flag "_streaming" q.streaming]

def WrittenQuestion.toJson (q : WrittenQuestion) : Json :=
  object [text "type" QuestionKind.written.text, text "id" q.id, text "question" q.question,
    integer "points" q.points, text "placeholder" q.placeholder,
    texts "correctAnswers" q.correctAnswers, flag "_streaming" q.streaming]

def Question.toJson : Question → Json
  | choice q => q.toJson
  | written q => q.toJson

def Quiz.toJson (w : Quiz) : Json :=
  object [Keyword.quiz.member, text "id" w.id, text "title" w.title,
    value "questions" (Json.arr (w.questions.map Question.toJson)), flag "showScore" w.showScore,
    flag "showProgress" w.showProgress, integer "passingScore" w.passingScore]

/-! ## Widgets -/

/-- A form, given its fields as JSON. -/
def formObject (id submitLabel : Option Text) (fields : List Json) : Json :=
  object [Keyword.form.member, text "id" id, text "submitLabel" submitLabel,
    value "fields" (Json.arr fields)]

mutual

def Widget.toJson : Widget → Json
  | .textInput w => w.toJson
  | .buttonGroup w => w.toJson .buttonGroup
  | .select w => w.toJson .select
  | .selectMulti w => w.toJson
  | .slider w => w.toJson
  | .form id submitLabel fields => formObject id submitLabel (Widget.listToJson fields)
  | .chart w => w.toJson
  | .multipleChoice w => w.toJson
  | .shortAnswer w => w.toJson
  | .quiz w => w.toJson

/-- The widgets of a form, in order. -/
def Widget.listToJson : List Widget → List Json
  | [] => []
  | w :: rest => w.toJson :: Widget.listToJson rest

end

/-! ## Previews and results -/

def QuizPreview.toJson (p : QuizPreview) : Json :=
  object [Keyword.quiz.member, text "id" p.id, text "title" p.title,
    value "questions" (Json.arr (p.questions.map Question.toJson)), flag "showScore" p.showScore,
    flag "showProgress" p.showProgress, integer "passingScore" p.passingScore,
    flag "_streaming" p.streaming]

def FormPreview.toJson (p : FormPreview) : Json :=
  object [Keyword.form.member, text "id" p.id, text "submitLabel" p.submitLabel,
    value "fields" (Json.arr (Widget.listToJson p.fields)), flag "_streaming" p.streaming]

def ChartPreview.toJson (p : ChartPreview) : Json :=
  object [(Keyword.chart p.kind).member, text "id" p.id, text "title" p.title,
    integer "height" p.height, texts "labels" p.labels,
    value "datasets" (Json.arr (p.datasets.map Dataset.toJson)), flag "_streaming" p.streaming]

def Stub.toJson (s : Stub) : Json := object [text "type" s.typeName, text "id" s.id]

def Preview.toJson : Preview → Json
  | widget w => w.toJson
  | quiz p => p.toJson
  | form p => p.toJson
  | chart p => p.toJson
  | stub s => s.toJson

def Pending.toJson (p : Pending) : Json :=
  object [flag "unclosedBracket" p.unclosedBracket, flag "unclosedQuote" p.unclosedQuote,
    flag "awaitingQuestions" p.awaitingQuestions, flag "awaitingFields" p.awaitingFields,
    flag "awaitingData" p.awaitingData]

def ParseResult.toJson (r : ParseResult) : Json :=
  object [flag "success" r.success, value "widget" (r.widget.map Widget.toJson),
    text "error" r.error]

def StreamingResult.toJson (r : StreamingResult) : Json :=
  object [flag "complete" r.complete, text "detectedType" r.detectedType,
    value "widget" (r.widget.map Preview.toJson), value "pending" (r.pending.map Pending.toJson),
    text "error" r.error]

/-! ## What can be written -/

/-- Why something has no JSON form that can be written. -/
inductive DescriptorError where
  | tooDeep
deriving Repr, DecidableEq

def DescriptorError.message : DescriptorError → Text
  | tooDeep => "Maximum serialization depth exceeded".toList

section

variable [DepthGuard]

/-- The JSON form of something, unless that is nested too deep. -/
def Descriptor.ofForm (d : Described) (form : Json) : Except DescriptorError Json :=
  if DepthGuard.admits d then .ok form else .error .tooDeep

def Widget.descriptor (w : Widget) : Except DescriptorError Json := ofForm (.widget w) w.toJson

def Chart.descriptor (w : Chart) : Except DescriptorError Json :=
  ofForm (.widget (.chart w)) w.toJson

def FormPreview.descriptor (p : FormPreview) : Except DescriptorError Json :=
  ofForm (.form p) p.toJson

def ParseResult.descriptor (r : ParseResult) : Except DescriptorError Json :=
  ofForm (.result r) r.toJson

def StreamingResult.descriptor (r : StreamingResult) : Except DescriptorError Json :=
  ofForm (.streaming r) r.toJson

end

end Widgetry
