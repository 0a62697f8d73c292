import Widgetry.Grammar.Error
import Widgetry.Text.LetterCase
import Widgetry.Widget.Basic

/-!
# Widgets of one line

The grammars of the seven widgets that are written on one line. Each reads the tokens after the
keyword, and the position of a token tells its meaning; the parts at the end may be missing, and
tokens beyond the last part are not looked at.
-/

namespace Widgetry.Grammar

/-! ## Parts -/

/-- The items of a token that must be an array. -/
def readArray (place : ArrayPlace) (token : Text) : Except ParseError (List Text) :=
  match ArrayLiteral.parse token with
  | .ok items => .ok items
  | .error .notBracketed => .error (.notAnArray place)

/-- Is the token written as an array? -/
def opensArray (token : Text) : Bool := token.head? == some '['

/-- The initial selection: an array, or one choice. -/
def readSelection (token : Text) : Except ParseError Selection :=
  if opensArray token then (readArray .selection token).map .many else .ok (.one token)

/-! ## Inputs -/

def readTextInput : List Text → Except ParseError TextInput
  | id :: rest => .ok ⟨id, rest[0]?, rest[1]?, rest[2]?⟩
  | [] => .error (.incomplete .textInput)

/-- Button groups and selection lists have the same parts. -/
def readChoiceInput (keyword : Keyword) : List Text → Except ParseError ChoiceInput
  | id :: choices :: rest => do
    let choices ← readArray .choices choices
    return ⟨id, none, choices, rest[0]?⟩
  | _ => .error (.incomplete keyword)

def readMultiSelect : List Text → Except ParseError MultiSelect
  | id :: choices :: rest => do
    let choices ← readArray .selection choices
    match rest with
    | [] => return ⟨id, none, choices, none⟩
    | initial :: _ => return ⟨id, none, choices, ← readSelection initial⟩
  | _ => .error (.incomplete .selectMulti)

/-- The bounds and the step must be numbers; an initial value that is none is left out. -/
def readSlider : List Text → Except ParseError Slider
  | id :: min :: max :: step :: rest =>
    match Number.read? min, Number.read? max, Number.read? step with
    | some min, some max, some step =>
      .ok ⟨id, none, min, max, step, rest[0]?.bind Number.read?⟩
    | _, _, _ => .error .boundsNotNumbers
  | _ => .error (.incomplete .slider)

/-! ## Questions -/

def readMultipleChoice : List Text → Except ParseError MultipleChoice
  | id :: question :: choices :: rest => do
    let choices ← readArray .choices choices
    return ⟨id, question, choices, rest[0]?, rest[1]?.map Text.isTrue⟩
  | _ => .error (.incomplete .multipleChoice)

/-- The answer is one text or an array of texts. -/
def readShortAnswer : List Text → Except ParseError ShortAnswer
  | id :: question :: rest => do
    let feedback := rest[2]?.map Text.isTrue
    match rest[1]? with
    | none => return ⟨id, question, rest[0]?, none, none, feedback⟩
    | some answer =>
      if opensArray answer then
        let answers ← readArray .answers answer
        return ⟨id, question, rest[0]?, none, answers, feedback⟩
      else return ⟨id, question, rest[0]?, answer, none, feedback⟩
  | _ => .error (.incomplete .shortAnswer)

end Widgetry.Grammar
