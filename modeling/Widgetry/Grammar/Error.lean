import Widgetry.Keyword
import Widgetry.ArrayLiteral
import Widgetry.Number.Literal

/-!
# Why a block is refused

Every cause has a constructor, and its wording stands in `ParseError.message`. An integer literal
that is too long is a failure of reading numbers, not of the grammar, so a report on the whole
block tells its kind only.
-/

namespace Widgetry

/-- Where an array was expected. -/
inductive ArrayPlace where
  | choices
  /-- The choices or the initial selection of a selection list with any number of choices. -/
  | selection
  | answers
  | questionChoices (line : Int)
  | questionAnswers (line : Int)
deriving Repr, DecidableEq

/-- The cause for refusing a block. -/
inductive ParseError where
  | emptyInput
  | unknownType (word : Text)
  /-- The block of this keyword lacks parts that it must have. -/
  | incomplete (keyword : Keyword)
  | notAnArray (place : ArrayPlace)
  | boundsNotNumbers
  | noTable
  | emptyTableHeader
  | narrowTable
  | rowWidth (row found expected : Nat)
  | cellNotNumber (cell : Text) (row column : Nat)
  | incompleteQuestion (kind : QuestionKind) (line : Int)
  | pointsNotNumber (token : Text) (line : Int)
  | unknownQuestion (word : Text) (line : Int)
  | noQuestions
  | oversized (literal : OversizedInteger)
deriving Repr, DecidableEq

/-- What is wrong with a text that stands where an array was expected. -/
def ArrayPlace.message : ArrayPlace → Text
  | choices => "Invalid choices array".toList
  | selection => "Invalid format".toList
  | answers => "Invalid answers value".toList
  | questionChoices line => "Invalid choices array on line ".toList ++ Text.ofInt line
  | questionAnswers line => "Invalid answers value on line ".toList ++ Text.ofInt line

/-- The parts that a block must have. -/
def Keyword.requirement : Keyword → Text
  | textInput => "text-input requires at least an id".toList
  | buttonGroup => "button-group requires id and choices array".toList
  | select => "select requires id and choices array".toList
  | selectMulti => "select-multi requires id and choices array".toList
  | slider => "slider requires id, min, max, step".toList
  | form => "form requires at least an id".toList
  | chart _ => "chart requires CSV data".toList
  | multipleChoice => "multiple-choice-question requires id, question, and choices array".toList
  | shortAnswer => "short-answer-question requires id and question".toList
  | quiz => "quiz requires id and title".toList

/-- The parts that the line of a quiz question must have. -/
def QuestionKind.requirement (line : Int) : QuestionKind → Text
  | choice => "MCQ question on line ".toList ++ Text.ofInt line ++
      " requires: id, question, points, and choices".toList
  | written => "Short answer question on line ".toList ++ Text.ofInt line ++
      " requires: id, question, and points".toList

namespace ParseError

/-- The wording of a cause. -/
def message : ParseError → Text
  | emptyInput => "Empty input".toList
  | unknownType word => "Unknown widget type: ".toList ++ word
  | incomplete keyword => keyword.requirement
  | notAnArray place =>
    place.message ++ ": ".toList ++ ArrayLiteral.ArrayError.notBracketed.message
  | boundsNotNumbers => "min, max, and step must be numbers".toList
  | noTable => "No CSV data provided".toList
  | emptyTableHeader => "Empty CSV header".toList
  | narrowTable => "CSV must have at least 2 columns".toList
  | rowWidth row found expected =>
    "Row ".toList ++ Text.ofNat row ++ " has ".toList ++ Text.ofNat found ++
      " columns, expected ".toList ++ Text.ofNat expected
  | cellNotNumber cell row column =>
    "Invalid number \"".toList ++ cell ++ "\" in row ".toList ++ Text.ofNat row ++
      ", column ".toList ++ Text.ofNat column
  | incompleteQuestion kind line => kind.requirement line
  | pointsNotNumber token line =>
    "Invalid points value \"".toList ++ token ++ "\" on line ".toList ++ Text.ofInt line
  | unknownQuestion word line =>
    "Unknown question type \"".toList ++ word ++ "\" on line ".toList ++ Text.ofInt line
  | noQuestions => "Quiz must contain at least one question".toList
  | oversized literal => literal.message

/-- The wording in the report on a whole block. -/
def report : ParseError → Text
  | oversized _ => "Failed to parse widget: ValueError".toList
  | cause => cause.message

end ParseError

end Widgetry
