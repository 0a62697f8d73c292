import Widgetry.Grammar.Chart
import Widgetry.Grammar.Quiz

/-!
# Blocks

A block is the text of one widget. Its first token is the keyword, which chooses the grammar.

The fields of a form are blocks too, each on an indented line of its own. A line holds no further
lines, so a field that is itself a form has no fields: two levels of reading are all there is, and
`parse` needs no recursion.
-/

namespace Widgetry.Grammar

/-! ## Forms -/

/-- The text of a form's field: what follows an indentation by two spaces. -/
def fieldText? : Text → Option Text
  | ' ' :: ' ' :: rest => some rest
  | _ => none

/-- The form that a block describes, given a reader for its fields. Lines that are not indented, and
fields that cannot be read, are skipped. -/
def readForm (child : Text → Except ParseError Widget) (source : Text) :
    Except ParseError Widget :=
  let (first, body) := Text.lines source
  match (tokenize first).tail with
  | id :: rest =>
    .ok (.form id rest[0]? (body.filterMap fun line =>
      (fieldText? line).bind fun field => (child field).toOption))
  | [] => .error (.incomplete .form)

/-! ## All blocks -/

/-- The widget of a given keyword: from the tokens after the keyword if the grammar has one line,
else from the source. -/
def readBlock (child : Text → Except ParseError Widget) (keyword : Keyword) (parts : List Text)
    (source : Text) : Except ParseError Widget :=
  match keyword with
  | .textInput => (readTextInput parts).map .textInput
  | .buttonGroup => (readChoiceInput .buttonGroup parts).map .buttonGroup
  | .select => (readChoiceInput .select parts).map .select
  | .selectMulti => (readMultiSelect parts).map .selectMulti
  | .slider => (readSlider parts).map .slider
  | .form => readForm child source
  | .chart kind => (readChart kind source).map .chart
  | .multipleChoice => (readMultipleChoice parts).map .multipleChoice
  | .shortAnswer => (readShortAnswer parts).map .shortAnswer
  | .quiz => (readQuiz source).map .quiz

/-- Reads a block, given a reader for the fields of a form. -/
def parseWith (child : Text → Except ParseError Widget) (t : Text) : Except ParseError Widget :=
  let source := Text.trim t
  match tokenize source with
  | [] => .error .emptyInput
  | word :: parts =>
    match Keyword.ofText? word with
    | none => .error (.unknownType word)
    | some keyword => readBlock child keyword parts source

/-- Reads a block of one line, in which no form has fields. -/
def parseLine (t : Text) : Except ParseError Widget := parseWith (fun _ => .error .emptyInput) t

/-- Reads a block. -/
def parse (t : Text) : Except ParseError Widget := parseWith parseLine t

end Widgetry.Grammar

namespace Widgetry

/-- The report on an outcome. -/
def ParseResult.ofOutcome : Except ParseError Widget → ParseResult
  | .ok w => ⟨true, w, none⟩
  | .error cause => ⟨false, none, cause.report⟩

/-- Reads a finished block and reports on it. -/
def parseBlock (t : Text) : ParseResult := .ofOutcome (Grammar.parse t)

end Widgetry
