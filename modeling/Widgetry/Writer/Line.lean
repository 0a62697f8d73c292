import Widgetry.Widget.Basic

/-!
# Writing lines

The written form of a widget's first line: the keyword and the parts that are set, in order and
with single spaces between them. Texts are put in double quotes, arrays in brackets. For the widgets
of one line this is the whole block.

The position of a part tells its meaning, so a line can be read back only if no part that is set
comes after one that is not; and a text must not contain a double quote, nor an item of an array a
square bracket.
-/

namespace Widgetry.Writer

/-! ## Parts -/

/-- A text in double quotes. -/
def quoted (t : Text) : Text := '"' :: t ++ ['"']

/-- A list of texts as an array. -/
def array (items : List Text) : Text := '[' :: [' '].intercalate (items.map quoted) ++ [']']

def selection : Selection → Text
  | .one choice => quoted choice
  | .many choices => array choices

def flag (b : Bool) : Text := if b then "true".toList else "false".toList

/-- A binary64 number with all its digits: an integer, followed by a negative exponent of ten if the
number is a fraction. Infinity is written as a number beyond the range of the format. -/
def binary64 (x : Binary64) : Text :=
  let sign : Text := if x.negative then ['-'] else []
  let size : Text :=
    if x.isFinite then
      match x.scale with
      | .ofNat e => Text.ofNat (x.significand * twoPow e)
      | .negSucc e =>
        Text.ofNat (x.significand * Nat.pow 5 (e + 1)) ++ "e-".toList ++ Text.ofNat (e + 1)
    else "1e999".toList
  sign ++ size

def number : Number → Text
  | .int n => Text.ofInt n
  | .float x => binary64 x

/-! ## Lines -/

/-- The answer to a question of its own: one text or an array. -/
def answer (w : ShortAnswer) : Option Text :=
  w.correctAnswer.map quoted <|> w.correctAnswers.map array

/-- The parts of the first line after the keyword, in order. -/
def parts : Widget → List (Option Text)
  | .textInput w => [w.id, w.label, w.placeholder, w.initial].map (·.map quoted)
  | .buttonGroup w | .select w =>
    [w.id.map quoted, some (array w.choices), w.initial.map quoted]
  | .selectMulti w => [w.id.map quoted, some (array w.choices), w.initial.map selection]
  | .slider w =>
    [w.id.map quoted, some (number w.min), some (number w.max), some (number w.step),
      w.initial.map number]
  | .form id submitLabel _ => [id.map quoted, submitLabel.map quoted]
  | .chart w => [w.id.map quoted, w.title.map quoted]
  | .multipleChoice w =>
    [w.id.map quoted, some (quoted w.question), some (array w.choices),
      w.correctAnswer.map quoted, w.showFeedback.map flag]
  | .shortAnswer w =>
    [w.id.map quoted, some (quoted w.question), w.placeholder.map quoted, answer w,
      w.showFeedback.map flag]
  | .quiz w => [w.id.map quoted, some (quoted w.title)]

/-- A word and the parts that are set, with single spaces between them. -/
def spaced (word : Text) (parts : List (Option Text)) : Text :=
  [' '].intercalate (word :: parts.filterMap id)

/-- The first line of a widget's block. -/
def line (w : Widget) : Text := spaced w.keyword.text (parts w)

end Widgetry.Writer
