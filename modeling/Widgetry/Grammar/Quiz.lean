import Widgetry.Grammar.Line
import Widgetry.Grammar.Setting
import Widgetry.Token

/-!
# Quizzes

A quiz is a first line with id and title, setting lines, and one line for each question. The
settings end at the first line that is neither blank nor has a colon; unknown settings are skipped.
Errors tell the number of the line, the first line being line 1.
-/

namespace Widgetry.Grammar

/-! ## Settings -/

/-- The settings that the lines of a quiz state. -/
structure QuizSettings where
  showScore : Option Bool
  showProgress : Option Bool
  passingScore : Option Int
deriving Repr, DecidableEq

/-- Nothing is stated. -/
def QuizSettings.unstated : QuizSettings := ⟨none, none, none⟩

/-- The settings of a quiz. -/
inductive QuizKey where
  | showScore
  | showProgress
  | passingScore
deriving Repr, DecidableEq

def QuizKey.ofText? (key : Text) : Option QuizKey :=
  if key = "showscore".toList then some .showScore
  else if key = "showprogress".toList then some .showProgress
  else if key = "passingscore".toList then some .passingScore
  else none

/-- The settings with one more line. A passing score that is no number is skipped. -/
def QuizSettings.set (s : QuizSettings) (key value : Text) :
    Except OversizedInteger QuizSettings :=
  match QuizKey.ofText? key with
  | none => .ok s
  | some .showScore => .ok ⟨Text.isTrue value, s.showProgress, s.passingScore⟩
  | some .showProgress => .ok ⟨s.showScore, Text.isTrue value, s.passingScore⟩
  | some .passingScore =>
    (readInteger value).map fun
      | none => s
      | some score => ⟨s.showScore, s.showProgress, score⟩

/-- Reads the settings from the lines after the first one; `read` lines have been read. The answer
tells how many lines belong to the settings. -/
def readQuizSettings (s : QuizSettings) (read : Nat) :
    List Text → Except OversizedInteger (QuizSettings × Nat)
  | [] => .ok (s, read)
  | line :: rest =>
    match Text.trim line with
    | [] => readQuizSettings s (read + 1) rest
    | line =>
      match readSetting? line with
      | none => .ok (s, read)
      | some (key, value) =>
        match s.set key value with
        | .ok s => readQuizSettings s (read + 1) rest
        | .error e => .error e

/-- The quiz with the stated settings; the others stay. -/
def QuizSettings.applyTo (s : QuizSettings) (quiz : Quiz) : Quiz where
  id := quiz.id
  title := quiz.title
  questions := quiz.questions
  showScore := s.showScore.getD quiz.showScore
  showProgress := s.showProgress.getD quiz.showProgress
  passingScore := s.passingScore <|> quiz.passingScore

/-! ## Questions -/

def readPoints (line : Int) (token : Text) : Except ParseError Int :=
  match readInteger token with
  | .ok (some points) => .ok points
  | .ok none => .error (.pointsNotNumber token line)
  | .error e => .error (.oversized e)

def readChoiceQuestion (line : Int) : List Text → Except ParseError ChoiceQuestion
  | id :: question :: points :: choices :: rest => do
    let points ← readPoints line points
    let choices ← readArray (.questionChoices line) choices
    return ⟨id, question, points, choices, rest[0]?, none⟩
  | _ => .error (.incompleteQuestion .choice line)

/-- A single answer is a list of one. -/
def readWrittenQuestion (line : Int) : List Text → Except ParseError WrittenQuestion
  | id :: question :: points :: rest => do
    let points ← readPoints line points
    match rest[1]? with
    | none => return ⟨id, question, points, rest[0]?, none, none⟩
    | some answer =>
      if opensArray answer then
        let answers ← readArray (.questionAnswers line) answer
        return ⟨id, question, points, rest[0]?, answers, none⟩
      else return ⟨id, question, points, rest[0]?, some [answer], none⟩
  | _ => .error (.incompleteQuestion .written line)

/-- The question on a line, from its first token and the others. The number of the line is only told
in errors. -/
def readQuestion (line : Int) (word : Text) (parts : List Text) : Except ParseError Question :=
  match QuestionKind.ofText? word with
  | some .choice => (readChoiceQuestion line parts).map .choice
  | some .written => (readWrittenQuestion line parts).map .written
  | none => .error (.unknownQuestion word line)

/-- The line of a question: its number, its first token and the others. -/
structure QuestionLine where
  number : Nat
  word : Text
  parts : List Text
deriving Repr, DecidableEq

/-- The tokens of a numbered line, if it has any. -/
def questionLine? (line : Text) (number : Nat) : Option QuestionLine :=
  match tokenize (Text.trim line) with
  | [] => none
  | word :: parts => some ⟨number, word, parts⟩

/-! ## The quiz -/

/-- A quiz without questions shows score and progress unless it says otherwise. -/
def emptyQuiz (id : Option Text) (title : Text) : Quiz := ⟨id, title, [], true, true, none⟩

/-- The quiz that a block describes. -/
def readQuiz (source : Text) : Except ParseError Quiz :=
  let (first, body) := Text.lines source
  match (tokenize first).tail with
  | id :: title :: _ => do
    let (settings, read) ←
      (readQuizSettings .unstated 0 body).mapError ParseError.oversized
    let numbered := (body.drop read).zipIdx (read + 2)
    let questions ← (numbered.filterMap fun (line, n) => questionLine? line n).mapM
      fun l => readQuestion l.number l.word l.parts
    if questions = [] then
      throw .noQuestions
    return { settings.applyTo (emptyQuiz id title) with questions }
  | _ => .error (.incomplete .quiz)

end Widgetry.Grammar
