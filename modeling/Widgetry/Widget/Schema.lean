import Widgetry.Json.Checked
import Widgetry.Widget.Nesting

/-!
# Reading descriptors

Reads widgets, questions, previews and results from JSON, and is the inverse of writing them. Keys
in snake case are read as well as those in camel case, unknown keys are skipped, and `type` may be
missing where it can have one value only. All issues are reported, in the order of the fields.

Where several widgets are possible, the value of `type` chooses the reader, and it becomes a step of
the path. Forms are read by recursion on the JSON value: every member of an object is read as a list
of widgets beforehand, and a form takes the reading of its `fields`. How many forms may lie inside
each other is up to the guard.

The widget of a streaming result can be read in several ways, as a finished widget or as one of the
previews. The reading that accounts for most of the members is taken.
-/

namespace Widgetry

/-! ## The fields -/

namespace Field

/-- A field with one spelling. -/
def plain (key : String) : Field := ⟨key.toList, key.toList⟩

/-- A field with a second spelling. -/
def spelled (key name : String) : Field := ⟨key.toList, name.toList⟩

def type : Field := plain "type"
def id : Field := plain "id"
def label : Field := plain "label"
def placeholder : Field := plain "placeholder"
def initial : Field := plain "default"
def choices : Field := plain "choices"
def min : Field := plain "min"
def max : Field := plain "max"
def step : Field := plain "step"
def data : Field := plain "data"
def title : Field := plain "title"
def height : Field := plain "height"
def labels : Field := plain "labels"
def datasets : Field := plain "datasets"
def options : Field := plain "options"
def question : Field := plain "question"
def questions : Field := plain "questions"
def points : Field := plain "points"
def correctAnswer : Field := spelled "correctAnswer" "correct_answer"
def correctAnswers : Field := spelled "correctAnswers" "correct_answers"
def showFeedback : Field := spelled "showFeedback" "show_feedback"
def showScore : Field := spelled "showScore" "show_score"
def showProgress : Field := spelled "showProgress" "show_progress"
def passingScore : Field := spelled "passingScore" "passing_score"
def submitLabel : Field := spelled "submitLabel" "submit_label"
def fields : Field := plain "fields"
def streaming : Field := spelled "_streaming" "streaming"
def success : Field := plain "success"
def widget : Field := plain "widget"
def error : Field := plain "error"
def complete : Field := plain "complete"
def detectedType : Field := spelled "detectedType" "detected_type"
def pending : Field := plain "pending"
def unclosedBracket : Field := spelled "unclosedBracket" "unclosed_bracket"
def unclosedQuote : Field := spelled "unclosedQuote" "unclosed_quote"
def awaitingQuestions : Field := spelled "awaitingQuestions" "awaiting_questions"
def awaitingFields : Field := spelled "awaitingFields" "awaiting_fields"
def awaitingData : Field := spelled "awaitingData" "awaiting_data"

end Field

namespace Schema

/-- The members of an object. -/
abbrev Members : Type := List (Text × Json)

/-- The one value that a field can have. -/
def literal (expected : Text) : Json → Checked Unit
  | .str t => if t = expected then pure () else .fail .notTheLiteral
  | _ => .fail .notTheLiteral

/-- The type of an object that can have one type only. -/
def fixedType (expected : Text) (ms : Members) : Checked Unit :=
  Field.type.withDefault (literal expected) () ms

def optionalText (f : Field) (ms : Members) : Checked (Option Text) := f.optional Json.toText ms

def optionalFlag (f : Field) (ms : Members) : Checked (Option Bool) := f.optional Json.toBool ms

/-- A list of texts that is empty if not given. -/
def textList (f : Field) (ms : Members) : Checked (List Text) :=
  f.withDefault (Json.toList Json.toText) [] ms

/-! ## Inputs -/

def textInput (ms : Members) : Checked TextInput :=
  (fun _ id label placeholder initial => ⟨id, label, placeholder, initial⟩)
    <$> fixedType Keyword.textInput.text ms <*> optionalText .id ms <*> optionalText .label ms
    <*> optionalText .placeholder ms <*> optionalText .initial ms

def choiceInput (k : Keyword) (ms : Members) : Checked ChoiceInput :=
  (fun _ id label choices initial => ⟨id, label, choices, initial⟩)
    <$> fixedType k.text ms <*> optionalText .id ms <*> optionalText .label ms
    <*> textList .choices ms <*> optionalText .initial ms

/-- A text or a list of texts. What is neither is wrong in two ways. -/
def selection : Json → Checked Selection
  | .str t => pure (.one t)
  | v =>
    match Json.toList Json.toText v with
    | .valid ts used => .valid (.many ts) used
    | .invalid issues =>
      .invalid (⟨.notAString, [.key "str".toList]⟩ ::
        issues.map fun i => ⟨i.kind, .key "list[str]".toList :: i.path⟩)

def multiSelect (ms : Members) : Checked MultiSelect :=
  (fun _ id label choices initial => ⟨id, label, choices, initial⟩)
    <$> fixedType Keyword.selectMulti.text ms <*> optionalText .id ms <*> optionalText .label ms
    <*> textList .choices ms <*> Field.initial.optional selection ms

def slider (ms : Members) : Checked Slider :=
  (fun _ id label min max step initial => ⟨id, label, min, max, step, initial⟩)
    <$> fixedType Keyword.slider.text ms <*> optionalText .id ms <*> optionalText .label ms
    <*> Field.min.required Json.toNumber ms <*> Field.max.required Json.toNumber ms
    <*> Field.step.required Json.toNumber ms <*> Field.initial.optional Json.toNumber ms

/-! ## Charts -/

def dataset (ms : Members) : Checked Dataset :=
  Dataset.mk <$> Field.label.required Json.toText ms
    <*> Field.data.withDefault (Json.toList Json.toNumber) [] ms

def datasets (ms : Members) : Checked (List Dataset) :=
  Field.datasets.withDefault (Json.toList (Json.toObject .notAnObject dataset)) [] ms

/-- The type of a chart, which must be given because it can have four values. -/
def chartKind : Json → Checked ChartKind
  | .str t =>
    match ChartKind.ofText? t with
    | some kind => pure kind
    | none => .fail .notTheLiteral
  | _ => .fail .notTheLiteral

/-- A chart. Its options may have any JSON values. -/
def chart (ms : Members) : Checked Chart :=
  Chart.mk <$> Field.type.required chartKind ms <*> optionalText .id ms <*> optionalText .title ms
    <*> Field.height.optional Json.toInt ms <*> textList .labels ms <*> datasets ms
    <*> Field.options.optional Json.toMembers ms

/-! ## Questions -/

def multipleChoice (ms : Members) : Checked MultipleChoice :=
  (fun _ id question choices answer feedback => ⟨id, question, choices, answer, feedback⟩)
    <$> fixedType Keyword.multipleChoice.text ms <*> optionalText .id ms
    <*> Field.question.required Json.toText ms <*> textList .choices ms
    <*> optionalText .correctAnswer ms <*> optionalFlag .showFeedback ms

def shortAnswer (ms : Members) : Checked ShortAnswer :=
  (fun _ id question placeholder answer answers feedback =>
      ⟨id, question, placeholder, answer, answers, feedback⟩)
    <$> fixedType Keyword.shortAnswer.text ms <*> optionalText .id ms
    <*> Field.question.required Json.toText ms <*> optionalText .placeholder ms
    <*> optionalText .correctAnswer ms
    <*> Field.correctAnswers.optional (Json.toList Json.toText) ms
    <*> optionalFlag .showFeedback ms

def choiceQuestion (ms : Members) : Checked ChoiceQuestion :=
  (fun _ id question points choices answer streaming =>
      ⟨id, question, points, choices, answer, streaming⟩)
    <$> fixedType QuestionKind.choice.text ms <*> Field.id.required Json.toText ms
    <*> Field.question.required Json.toText ms <*> Field.points.withDefault Json.toInt 0 ms
    <*> textList .choices ms <*> optionalText .correctAnswer ms <*> optionalFlag .streaming ms

def writtenQuestion (ms : Members) : Checked WrittenQuestion :=
  (fun _ id question points placeholder answers streaming =>
      ⟨id, question, points, placeholder, answers, streaming⟩)
    <$> fixedType QuestionKind.written.text ms <*> Field.id.required Json.toText ms
    <*> Field.question.required Json.toText ms <*> Field.points.withDefault Json.toInt 0 ms
    <*> optionalText .placeholder ms
    <*> Field.correctAnswers.optional (Json.toList Json.toText) ms <*> optionalFlag .streaming ms

/-- Reads the object by its type: the reader for each tag is given by `reader?`. -/
def tagged {α : Type} (reader? : Text → Option (Checked α)) (ms : Members) : Checked α :=
  match ms.lookup Field.type.key with
  | none => .fail .missingTag
  | some (.str tag) =>
    match reader? tag with
    | some result => result.under (.key tag)
    | none => .fail .unknownTag
  | some _ => .fail .unknownTag

def question : Json → Checked Question :=
  Json.toObject .notAttributes fun ms => tagged (fun tag =>
    (QuestionKind.ofText? tag).map fun
      | .choice => .choice <$> choiceQuestion ms
      | .written => .written <$> writtenQuestion ms) ms

def questions (ms : Members) : Checked (List Question) :=
  Field.questions.withDefault (Json.toList question) [] ms

def quiz (ms : Members) : Checked Quiz :=
  (fun _ id title questions showScore showProgress passingScore =>
      ⟨id, title, questions, showScore, showProgress, passingScore⟩)
    <$> fixedType Keyword.quiz.text ms <*> optionalText .id ms
    <*> Field.title.required Json.toText ms <*> questions ms
    <*> Field.showScore.withDefault Json.toBool true ms
    <*> Field.showProgress.withDefault Json.toBool true ms
    <*> Field.passingScore.optional Json.toInt ms

/-! ## Widgets -/

/-- The fields of a form, from the members of its object, each read as a list of widgets. -/
def formFields (lists : List (Text × Checked (List Widget))) : Checked (List Widget) :=
  match Field.fields.find? lists with
  | some (key, result) => result.member key
  | none => pure []

/-- A form, from the members of its object, and from these members read as lists of widgets. -/
def formOf (ms : Members) (lists : List (Text × Checked (List Widget))) : Checked Widget :=
  (fun _ id submitLabel fields => .form id submitLabel fields)
    <$> fixedType Keyword.form.text ms <*> optionalText .id ms <*> optionalText .submitLabel ms
    <*> formFields lists

variable [DepthGuard]

/-- The widget of a given keyword, `around` being the number of forms that it lies in. -/
def widgetOf (around : Nat) (ms : Members) (lists : List (Text × Checked (List Widget))) :
    Keyword → Checked Widget
  | .textInput => .textInput <$> textInput ms
  | .buttonGroup => .buttonGroup <$> choiceInput .buttonGroup ms
  | .select => .select <$> choiceInput .select ms
  | .selectMulti => .selectMulti <$> multiSelect ms
  | .slider => .slider <$> slider ms
  | .form => if around < DepthGuard.maxForms then formOf ms lists else .fail .tooDeep
  | .chart _ => .chart <$> chart ms
  | .multipleChoice => .multipleChoice <$> multipleChoice ms
  | .shortAnswer => .shortAnswer <$> shortAnswer ms
  | .quiz => .quiz <$> quiz ms

/-- The widget that an object's type names. -/
def taggedWidget (around : Nat) (ms : Members) (lists : List (Text × Checked (List Widget))) :
    Checked Widget :=
  tagged (fun tag => (Keyword.ofText? tag).map (widgetOf around ms lists)) ms

mutual

/-- A widget that lies in `around` forms. -/
def widgetWithin (around : Nat) : Json → Checked Widget
  | .obj ms => taggedWidget around ms (widgetLists (around + 1) ms)
  | _ => .fail .notAttributes

/-- Each member read as a list of widgets. -/
def widgetLists (around : Nat) : List (Text × Json) → List (Text × Checked (List Widget))
  | [] => []
  | (key, v) :: rest => (key, widgetList around v) :: widgetLists around rest

def widgetList (around : Nat) : Json → Checked (List Widget)
  | .arr items => widgetItems around 0 items
  | _ => .fail .notAList

/-- The widgets of a list, the first one at `position`. -/
def widgetItems (around position : Nat) : List Json → Checked (List Widget)
  | [] => pure []
  | v :: rest =>
    List.cons <$> (widgetWithin around v).under (.index position)
      <*> widgetItems around (position + 1) rest

end

/-- A widget that lies in no form. -/
def widget (v : Json) : Checked Widget := widgetWithin 0 v

/-- A form that lies in no other form. -/
def form (ms : Members) : Checked Widget := formOf ms (widgetLists 1 ms)

/-! ## Previews -/

def quizPreview (ms : Members) : Checked QuizPreview :=
  (fun _ id title questions showScore showProgress passingScore streaming =>
      ⟨id, title, questions, showScore, showProgress, passingScore, streaming⟩)
    <$> fixedType Keyword.quiz.text ms <*> optionalText .id ms <*> optionalText .title ms
    <*> questions ms <*> optionalFlag .showScore ms <*> optionalFlag .showProgress ms
    <*> Field.passingScore.optional Json.toInt ms
    <*> Field.streaming.withDefault (Json.toOption Json.toBool) (some true) ms

/-- A preview of a form, `around` being the number of forms that its fields lie in. -/
def formPreview (around : Nat) (ms : Members) : Checked FormPreview :=
  (fun _ id submitLabel fields streaming => ⟨id, submitLabel, fields, streaming⟩)
    <$> fixedType Keyword.form.text ms <*> optionalText .id ms <*> optionalText .submitLabel ms
    <*> formFields (widgetLists around ms)
    <*> Field.streaming.withDefault (Json.toOption Json.toBool) (some true) ms

def chartPreview (ms : Members) : Checked ChartPreview :=
  ChartPreview.mk <$> Field.type.required chartKind ms <*> optionalText .id ms
    <*> optionalText .title ms <*> Field.height.optional Json.toInt ms <*> textList .labels ms
    <*> datasets ms <*> Field.streaming.withDefault (Json.toOption Json.toBool) (some true) ms

def stub (ms : Members) : Checked Stub :=
  Stub.mk <$> Field.type.required Json.toText ms <*> optionalText .id ms

/-- Does an object say that it is a form? The fields of its preview lie in a form then. -/
def saysForm (ms : Members) : Bool :=
  match ms.lookup Field.type.key with
  | some (.str tag) => tag == Keyword.form.text
  | _ => false

/-- One of several ways to read an object: its name, and what it gives. -/
structure Branch where
  name : Text
  result : Checked Preview

/-- The reading as a finished widget. -/
def widgetBranch (ms : Members) : Branch where
  name := "tagged-union[TextInputWidget,ButtonGroupWidget,SelectWidget,".toList ++
    "SelectMultiWidget,SliderWidget,FormWidget,ChartWidget,ChartWidget,".toList ++
    "ChartWidget,ChartWidget,MultipleChoiceQuestionWidget,".toList ++
    "ShortAnswerQuestionWidget,QuizWidget]".toList
  result := .widget <$> widget (.obj ms)

/-- The ways to read a preview. -/
def branches (ms : Members) : List Branch :=
  [widgetBranch ms,
    ⟨"PartialQuiz".toList, .quiz <$> quizPreview ms⟩,
    ⟨"PartialForm".toList, .form <$> formPreview (if saysForm ms then 1 else 0) ms⟩,
    ⟨"PartialChart".toList, .chart <$> chartPreview ms⟩,
    ⟨"WidgetStub".toList, .stub <$> stub ms⟩]

/-- Of the valid readings, the one that uses most members; the first of several. -/
def best : List Branch → Option (Preview × Nat)
  | [] => none
  | b :: rest =>
    match b.result, best rest with
    | .valid p used, some (q, most) => if most ≤ used then some (p, used) else some (q, most)
    | .valid p used, none => some (p, used)
    | .invalid _, other => other

/-- A preview; if no way of reading it is valid, the issues of all of them. -/
def preview : Json → Checked Preview
  | .obj ms =>
    match best (branches ms) with
    | some (p, used) => .valid p used
    | none => .invalid ((branches ms).flatMap fun b => (b.result.under (.key b.name)).issues)
  | _ =>
    .invalid ((branches []).zipIdx.map fun (b, i) =>
      ⟨if i = 0 then .notAttributes else .notAnObject, [.key b.name]⟩)

/-! ## Results -/

def pending (ms : Members) : Checked Pending :=
  Pending.mk <$> optionalFlag .unclosedBracket ms <*> optionalFlag .unclosedQuote ms
    <*> optionalFlag .awaitingQuestions ms <*> optionalFlag .awaitingFields ms
    <*> optionalFlag .awaitingData ms

/-- What is wrong with a result whose parts contradict each other. -/
def contradiction (r : ParseResult) : IssueKind :=
  if r.success then .inconsistent "successful ParseResult requires a widget".toList
  else .inconsistent "failed ParseResult requires an error message".toList

/-- A result whose parts agree with each other. -/
def parseResult (ms : Members) : Checked ParseResult :=
  let result := ParseResult.mk <$> Field.success.required Json.toBool ms
    <*> Field.widget.optional widget ms <*> optionalText .error ms
  match result with
  | .valid r used => if r.isConsistent then .valid r used else .fail (contradiction r)
  | .invalid issues => .invalid issues

def streamingResult (ms : Members) : Checked StreamingResult :=
  StreamingResult.mk <$> Field.complete.required Json.toBool ms <*> optionalText .detectedType ms
    <*> Field.widget.optional preview ms
    <*> Field.pending.optional (Json.toObject .notAnObject pending) ms <*> optionalText .error ms

/-! ## Requests -/

/-- A field that must have a text, with the least and the most characters of the text. -/
structure TextField where
  key : Text
  least : Nat
  most : Nat

/-- The source text of a request to read a block. -/
def sourceText : TextField := ⟨"source_text".toList, 1, 100000⟩

namespace TextField

def bounded (f : TextField) (t : Text) : Checked Text :=
  if t.length < f.least then .fail .stringTooShort
  else if f.most < t.length then .fail .stringTooLong
  else pure t

/-- The text of the member of the field, if there is one. -/
def required {α : Type} (f : TextField) (read : α → Checked Text) : Option α → Checked Text
  | some v => ((read v).andThen f.bounded).member f.key
  | none => (Checked.fail .missing).under (.key f.key)

/-- The text that the field has in a value that has been decoded. -/
def ofRaw (f : TextField) : RawJson → Checked Text
  | .obj members => f.required RawJson.toText (members.lookup (Text.codePoints f.key))
  | _ => .fail .notAttributes

end TextField

/-- The source text of a request. -/
def request (ms : Members) : Checked Text :=
  sourceText.required Json.toText (ms.lookup sourceText.key)

end Schema

end Widgetry
