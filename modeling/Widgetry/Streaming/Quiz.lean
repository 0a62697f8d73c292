import Widgetry.Grammar.Quiz
import Widgetry.OpenSpan

/-!
# Quizzes that are still arriving

A quiz is shown with the questions that can be read so far. A question line may end anywhere: open
quotes and brackets are closed first, and parts that have not arrived are filled in. Lines that do
not open with the word for a question are skipped.
-/

namespace Widgetry.Streaming

/-! ## What is shown for missing parts -/

def pendingId : Text := "pending".toList

def pendingTitle : Text := "Loading...".toList

def pendingQuestion : Text := "Loading question...".toList

/-- The id of a question whose own has not arrived; `index` counts the lines after the first one. -/
def pendingQuestionId (index : Int) : Text := 'q' :: Text.ofInt index

/-! ## Questions -/

/-- The points in a token; none if there is no token or it is no number. -/
def previewPoints : Option Text → Except OversizedInteger Int
  | none => .ok 0
  | some token => (readInteger token).map (·.getD 0)

/-- Stands for a question whose choices are not an array yet. Its id is the second word of the raw
line. -/
def placeholderQuestion (index : Int) (line : Text) : ChoiceQuestion where
  id := (Text.words line)[1]?.getD (pendingQuestionId index)
  question := "Loading...".toList
  points := 0
  choices := []
  correctAnswer := none
  streaming := true

/-- A question with choices, from the tokens after its word. -/
def previewChoiceQuestion (index : Int) (line : Text) (parts : List Text) (points : Int) :
    ChoiceQuestion :=
  let question (choices : List Text) : ChoiceQuestion :=
    { id := parts[0]?.getD (pendingQuestionId index)
      question := parts[1]?.getD pendingQuestion
      points := points
      choices := choices
      correctAnswer := parts[4]?
      streaming := parts[3]?.isNone }
  match parts[3]? with
  | none => question []
  | some choices =>
    match ArrayLiteral.parse? choices with
    | some choices => question choices
    | none => placeholderQuestion index line

/-- The answers that a token gives: an array, or one answer. -/
def previewAnswers (token : Text) : Option (List Text) :=
  if Grammar.opensArray token then ArrayLiteral.parse? token else some [token]

/-- A question with a written answer, from the tokens after its word. -/
def previewWrittenQuestion (index : Int) (parts : List Text) (points : Int) : WrittenQuestion where
  id := parts[0]?.getD (pendingQuestionId index)
  question := parts[1]?.getD pendingQuestion
  points := points
  placeholder := parts[3]?
  correctAnswers := parts[4]?.bind previewAnswers
  streaming := parts[2]?.isNone

/-- The question on a line, if the line opens with the word for one. -/
def previewQuestion (index : Int) (line : Text) : Except OversizedInteger (Option Question) :=
  match tokenize (complete line) with
  | [] => .ok none
  | word :: parts =>
    match QuestionKind.ofText? word with
    | none => .ok none
    | some kind => do
      let points ← previewPoints parts[2]?
      match kind with
      | .choice => return some (.choice (previewChoiceQuestion index line parts points))
      | .written => return some (.written (previewWrittenQuestion index parts points))

/-! ## The quiz -/

/-- A preview in which nothing is stated. -/
def unstatedQuiz : QuizPreview := ⟨none, none, [], none, none, none, true⟩

/-- The preview with the stated settings; the others stay. -/
def applySettings (s : Grammar.QuizSettings) (p : QuizPreview) : QuizPreview where
  id := p.id
  title := p.title
  questions := p.questions
  showScore := s.showScore <|> p.showScore
  showProgress := s.showProgress <|> p.showProgress
  passingScore := s.passingScore <|> p.passingScore
  streaming := p.streaming

/-- The quiz as far as it has arrived. -/
def previewQuiz (source : Text) : Except OversizedInteger QuizPreview := do
  let (first, body) := Text.lines source
  let header := (tokenize first).tail
  let (settings, read) ← Grammar.readQuizSettings .unstated 0 body
  let numbered := (body.drop read).zipIdx (read + 1)
  let questions ← numbered.mapM fun (line, index) => previewQuestion index (Text.trim line)
  let preview : QuizPreview :=
    { id := some (header[0]?.getD pendingId)
      title := some (header[1]?.getD pendingTitle)
      questions := questions.filterMap id
      showScore := true
      showProgress := true
      passingScore := none
      streaming := true }
  return applySettings settings preview

end Widgetry.Streaming
