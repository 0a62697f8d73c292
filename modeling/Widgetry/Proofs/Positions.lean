import Mathlib.Data.List.Basic
import Widgetry.Grammar.Block
import Widgetry.Proofs.Outcome

/-!
# Reading by position

The grammars take tokens, lines and cells apart by pattern, so that nothing can be missing where
they look. Here the same blocks are read by position: each grammar counts what it has been given and
then looks at one position after another, and a position where there is nothing is a fault of its own.
The two readings agree (`parse_eq`, `parseLine_eq`), so no count is too small for the positions
that are looked at behind it.
-/

namespace Widgetry.Positions

open Text Grammar Outcome

/-- Why a reading by position ends. -/
inductive Fault where
  /-- Nothing is at the position. -/
  | outOfRange
  | refused (cause : ParseError)
deriving Repr, DecidableEq

/-! ## Positions -/

section Positions

variable {α β : Type}

/-- The member at a position. -/
def member (xs : List α) (i : Nat) : Except Fault α :=
  match xs[i]? with
  | some x => .ok x
  | none => .error .outOfRange

/-- The token at a position, where there need not be one. -/
def optional (tokens : List Text) (i : Int) : Except Fault (Option Text) :=
  (tokenAt tokens i).mapError fun _ => .outOfRange

/-- The token at a position, looked at only if there are so many. -/
def guarded (tokens : List Text) (i : Nat) : Except Fault (Option Text) :=
  if i < tokens.length then (member tokens i).map some else .ok none

def refuse (cause : ParseError) : Except Fault α := .error (.refused cause)

/-- An outcome that does not depend on positions. -/
def lift (x : Except ParseError α) : Except Fault α := x.mapError .refused

end Positions

/-! ## Widgets of one line

The keyword is at position 0. -/

def textInput (tokens : List Text) : Except Fault TextInput :=
  if tokens.length < 2 then refuse (.incomplete .textInput)
  else do
    let id ← member tokens 1
    return ⟨id, ← optional tokens 2, ← optional tokens 3, ← optional tokens 4⟩

def choiceInput (keyword : Keyword) (tokens : List Text) : Except Fault ChoiceInput :=
  if tokens.length < 3 then refuse (.incomplete keyword)
  else do
    let id ← member tokens 1
    let choices ← lift (readArray .choices (← member tokens 2))
    return ⟨id, none, choices, ← optional tokens 3⟩

def multiSelect (tokens : List Text) : Except Fault MultiSelect :=
  if tokens.length < 3 then refuse (.incomplete .selectMulti)
  else do
    let id ← member tokens 1
    let choices ← lift (readArray .selection (← member tokens 2))
    match ← guarded tokens 3 with
    | none => return ⟨id, none, choices, none⟩
    | some initial => return ⟨id, none, choices, ← lift (readSelection initial)⟩

/-- The three bounds are taken out of a part of the tokens, which must have that many. -/
def slider (tokens : List Text) : Except Fault Slider :=
  if tokens.length < 5 then refuse (.incomplete .slider)
  else
    let bounds := ((tokens.drop 2).take 3).map Number.read?
    if none ∈ bounds then refuse .boundsNotNumbers
    else
      match bounds with
      | [some min, some max, some step] => do
        let id ← member tokens 1
        let initial ← guarded tokens 5
        return ⟨id, none, min, max, step, initial.bind Number.read?⟩
      | _ => .error .outOfRange

def multipleChoice (tokens : List Text) : Except Fault MultipleChoice :=
  if tokens.length < 4 then refuse (.incomplete .multipleChoice)
  else do
    let id ← member tokens 1
    let question ← member tokens 2
    let choices ← lift (readArray .choices (← member tokens 3))
    let answer ← optional tokens 4
    let feedback ← guarded tokens 5
    return ⟨id, question, choices, answer, feedback.map Text.isTrue⟩

/-- The answers at a position: one text or an array of texts. -/
def answersAt (place : ArrayPlace) (tokens : List Text) (i : Nat) :
    Except Fault (Option Text × Option (List Text)) := do
  match ← guarded tokens i with
  | none => return (none, none)
  | some answer =>
    if opensArray answer then
      let answers ← lift (readArray place answer)
      return (none, answers)
    else return (answer, none)

def shortAnswer (tokens : List Text) : Except Fault ShortAnswer :=
  if tokens.length < 3 then refuse (.incomplete .shortAnswer)
  else do
    let id ← member tokens 1
    let question ← member tokens 2
    let placeholder ← optional tokens 3
    let (single, several) ← answersAt .answers tokens 4
    let feedback ← guarded tokens 5
    return ⟨id, question, placeholder, single, several, feedback.map Text.isTrue⟩

/-! ## Forms -/

def form (child : Text → Except Fault Widget) (source : Text) : Except Fault Widget := do
  let lines := pieces (· == '\n') source
  let header := tokenize (← member lines 0)
  if header.length < 2 then refuse (.incomplete .form)
  else
    let id ← member header 1
    let submitLabel ← optional header 2
    return .form id submitLabel ((lines.drop 1).filterMap fun line =>
      (fieldText? line).bind fun field => (child field).toOption)

/-! ## Charts -/

/-- A data set with one more number. -/
def push (d : Dataset) (n : Number) : Dataset := ⟨d.label, d.data ++ [n]⟩

def pushAt (datasets : List Dataset) (i : Nat) (n : Number) : Except Fault (List Dataset) := do
  let d ← member datasets i
  return datasets.set i (push d n)

/-- Puts the cells of a row, with the numbers of their columns, into the data sets. -/
def fillRow (row : Nat) (datasets : List Dataset) : List (Text × Nat) → Except Fault (List Dataset)
  | [] => return datasets
  | (cell, column) :: rest =>
    match Number.read? cell with
    | none => refuse (.cellNotNumber cell row (column + 1))
    | some n => do fillRow row (← pushAt datasets (column - 1) n) rest

/-- Puts a row into a table that has a given number of cells in each row. -/
def fillLine (width row : Nat) (table : Table) (line : Text) : Except Fault Table :=
  let values := (pieces (· == ',') line).map trim
  if values.length ≠ width then refuse (.rowWidth row values.length width)
  else do
    let label ← member values 0
    let datasets ← fillRow row table.datasets ((values.drop 1).zipIdx 1)
    return ⟨table.labels ++ [label], datasets⟩

/-- Puts the lines that are not blank into a table; `row` rows have been read. -/
def fillTable (width row : Nat) (table : Table) : List Text → Except Fault Table
  | [] => return table
  | line :: rest =>
    match trim line with
    | [] => fillTable width row table rest
    | line => do fillTable width (row + 1) (← fillLine width (row + 1) table line) rest

def table (lines : List Text) : Except Fault Table :=
  if lines = [] then refuse .noTable
  else do
    let header := trim (← member lines 0)
    if header = [] then refuse .emptyTableHeader
    else
      let names := (pieces (· == ',') header).map trim
      if names.length < 2 then refuse .narrowTable
      else fillTable names.length 1 ⟨[], (names.drop 1).map (⟨·, []⟩)⟩ (lines.drop 1)

/-- Reads the settings of a chart from the lines at the given positions. The answer tells where the
table starts. -/
def chartHeader (lines : List Text) (h : ChartHeader) (start : Nat) :
    List Nat → Except Fault (ChartHeader × Nat)
  | [] => return (h, start)
  | index :: rest => do
    match trim (← member lines index) with
    | [] => chartHeader lines h start rest
    | line =>
      match readChartSetting? line with
      | none => return (h, index)
      | some (key, value) =>
        chartHeader lines (← lift ((h.set key value).mapError .oversized)) (index + 1) rest

def chart (kind : ChartKind) (source : Text) : Except Fault Chart := do
  let lines := pieces (· == '\n') source
  if lines.length < 2 then refuse (.incomplete (.chart kind))
  else
    let header := tokenize (← member lines 0)
    let (h, start) ←
      if 1 < header.length then do
        let id ← member header 1
        pure (⟨id, ← optional header 2, none⟩, 1)
      else chartHeader lines ⟨none, none, none⟩ 1 (List.range' 1 (lines.length - 1))
    let table ← table (lines.drop start)
    return ⟨kind, h.id, h.title, h.height, table.labels, table.datasets, none⟩

/-! ## Quizzes -/

/-- Reads the settings of a quiz from the lines at the given positions. The answer tells where the
questions start. -/
def quizSettings (lines : List Text) (s : QuizSettings) :
    List Nat → Except Fault (QuizSettings × Nat)
  | [] => return (s, lines.length)
  | index :: rest => do
    match trim (← member lines index) with
    | [] => quizSettings lines s rest
    | line =>
      match readSetting? line with
      | none => return (s, index)
      | some (key, value) =>
        quizSettings lines (← lift ((s.set key value).mapError .oversized)) rest

def points (line : Int) (tokens : List Text) : Except Fault Int := do
  lift (readPoints line (← member tokens 3))

def choiceQuestion (line : Int) (tokens : List Text) : Except Fault ChoiceQuestion :=
  if tokens.length < 5 then refuse (.incompleteQuestion .choice line)
  else do
    let points ← points line tokens
    let id ← member tokens 1
    let question ← member tokens 2
    let choices ← lift (readArray (.questionChoices line) (← member tokens 4))
    return ⟨id, question, points, choices, ← optional tokens 5, none⟩

def writtenQuestion (line : Int) (tokens : List Text) : Except Fault WrittenQuestion :=
  if tokens.length < 4 then refuse (.incompleteQuestion .written line)
  else do
    let id ← member tokens 1
    let question ← member tokens 2
    let points ← points line tokens
    let placeholder ← optional tokens 4
    let (single, several) ← answersAt (.questionAnswers line) tokens 5
    return ⟨id, question, points, placeholder, several <|> single.map ([·]), none⟩

def question (line : Int) (tokens : List Text) : Except Fault Question := do
  let word ← member tokens 0
  match QuestionKind.ofText? word with
  | some .choice => (choiceQuestion line tokens).map .choice
  | some .written => (writtenQuestion line tokens).map .written
  | none => refuse (.unknownQuestion word line)

/-- The question on the line at a position, if the line has tokens. -/
def questionAt (lines : List Text) (index : Nat) : Except Fault (Option Question) := do
  let tokens := tokenize (trim (← member lines index))
  if tokens = [] then return none
  else
    let question ← question (index + 1 : Nat) tokens
    return question

def quiz (source : Text) : Except Fault Quiz := do
  let lines := pieces (· == '\n') source
  let header := tokenize (← member lines 0)
  if header.length < 3 then refuse (.incomplete .quiz)
  else
    let id ← member header 1
    let title ← member header 2
    let (settings, start) ← quizSettings lines .unstated (List.range' 1 (lines.length - 1))
    let questions ← (List.range' start (lines.length - start)).mapM (questionAt lines)
    if questions.reduceOption = [] then refuse .noQuestions
    else return { settings.applyTo (emptyQuiz id title) with questions := questions.reduceOption }

/-! ## All blocks -/

def block (child : Text → Except Fault Widget) (keyword : Keyword) (tokens : List Text)
    (source : Text) : Except Fault Widget :=
  match keyword with
  | .textInput => (textInput tokens).map .textInput
  | .buttonGroup => (choiceInput .buttonGroup tokens).map .buttonGroup
  | .select => (choiceInput .select tokens).map .select
  | .selectMulti => (multiSelect tokens).map .selectMulti
  | .slider => (slider tokens).map .slider
  | .form => form child source
  | .chart kind => (chart kind source).map .chart
  | .multipleChoice => (multipleChoice tokens).map .multipleChoice
  | .shortAnswer => (shortAnswer tokens).map .shortAnswer
  | .quiz => (quiz source).map .quiz

def parseWith (child : Text → Except Fault Widget) (t : Text) : Except Fault Widget :=
  let source := trim t
  let tokens := tokenize source
  if tokens = [] then refuse .emptyInput
  else do
    let word ← member tokens 0
    match Keyword.ofText? word with
    | none => refuse (.unknownType word)
    | some keyword => block child keyword tokens source

/-- Reads a block of one line. -/
def parseLine (t : Text) : Except Fault Widget := parseWith (fun _ => refuse .emptyInput) t

/-- Reads a block. -/
def parse (t : Text) : Except Fault Widget := parseWith parseLine t

end Widgetry.Positions
