import Widgetry.Text.Basic

/-!
# Keywords

The word that opens a block names the widget that the block describes. While a text arrives, its
first word may still be growing into a keyword.
-/

namespace Widgetry

/-- The four kinds of chart. -/
inductive ChartKind where
  | line
  | bar
  | pie
  | scatter
deriving Repr, DecidableEq

/-- The thirteen kinds of widget. -/
inductive Keyword where
  | textInput
  | buttonGroup
  | select
  | selectMulti
  | slider
  | form
  | chart (kind : ChartKind)
  | multipleChoice
  | shortAnswer
  | quiz
deriving Repr, DecidableEq

namespace Keyword

/-! ## Spelling -/

/-- The word for a keyword. -/
def text : Keyword → Text
  | textInput => "text-input".toList
  | buttonGroup => "button-group".toList
  | select => "select".toList
  | selectMulti => "select-multi".toList
  | slider => "slider".toList
  | form => "form".toList
  | chart .line => "chart-line".toList
  | chart .bar => "chart-bar".toList
  | chart .pie => "chart-pie".toList
  | chart .scatter => "chart-scatter".toList
  | multipleChoice => "multiple-choice-question".toList
  | shortAnswer => "short-answer-question".toList
  | quiz => "quiz".toList

/-- All keywords, in the order of the catalogue. -/
def all : List Keyword :=
  [textInput, buttonGroup, select, selectMulti, slider, form, chart .line, chart .bar, chart .pie,
    chart .scatter, multipleChoice, shortAnswer, quiz]

/-- The keyword that a word spells. -/
def ofText? (word : Text) : Option Keyword := all.find? (·.text == word)

/-- Every keyword is read back from its word. -/
@[simp] theorem ofText?_text (k : Keyword) : ofText? k.text = some k := by
  cases k with
  | chart kind => cases kind <;> rfl
  | _ => rfl

/-- A word spells a keyword only if it is the word for it. -/
theorem text_of_ofText? {word : Text} {k : Keyword} (h : ofText? word = some k) :
    k.text = word := by
  have spelled := List.find?_some h
  exact eq_of_beq spelled

theorem ofText?_eq_some_iff {word : Text} {k : Keyword} : ofText? word = some k ↔ word = k.text :=
  ⟨fun h => (text_of_ofText? h).symm, fun h => h ▸ ofText?_text k⟩

/-! ## The first word of an arriving text -/

/-- The text before the first white space. -/
def leadingWord (t : Text) : Text := t.takeWhile fun c => !Text.isBlank c

/-- Can the word still grow into a keyword? The empty word and complete keywords that begin no
longer one cannot. -/
def canGrowFrom (word : Text) : Bool :=
  word != [] && all.any fun k => word.isPrefixOf k.text && word.length < k.text.length

end Keyword

/-- The chart kind that a word names. -/
def ChartKind.ofText? (word : Text) : Option ChartKind :=
  match Keyword.ofText? word with
  | some (.chart kind) => some kind
  | _ => none

/-! ## Quiz questions -/

/-- The two kinds of quiz question: with answers to choose from, and with a written answer. -/
inductive QuestionKind where
  | choice
  | written
deriving Repr, DecidableEq

namespace QuestionKind

/-- The word that opens the line of a question. -/
def text : QuestionKind → Text
  | choice => "mcq".toList
  | written => "short-answer".toList

/-- The kind that a word opens. -/
def ofText? (word : Text) : Option QuestionKind := [choice, written].find? (·.text == word)

@[simp] theorem ofText?_text (k : QuestionKind) : ofText? k.text = some k := by
  cases k <;> rfl

theorem text_of_ofText? {word : Text} {k : QuestionKind} (h : ofText? word = some k) :
    k.text = word := by
  have spelled := List.find?_some h
  exact eq_of_beq spelled

theorem ofText?_eq_some_iff {word : Text} {k : QuestionKind} :
    ofText? word = some k ↔ word = k.text :=
  ⟨fun h => (text_of_ofText? h).symm, fun h => h ▸ ofText?_text k⟩

end QuestionKind

end Widgetry
