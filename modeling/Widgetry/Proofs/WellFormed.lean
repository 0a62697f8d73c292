import Widgetry.Proofs.BlockGrammar
import Widgetry.Proofs.Dispatch
import Widgetry.Proofs.Items
import Widgetry.Proofs.Lines
import Widgetry.Proofs.Tables
import Widgetry.Widget.Parts

/-!
# What a widget that has been read looks like

Each grammar takes the texts of its widget from the tokens of the block, and its lists from arrays
among them. Tokens are scalars, and the items of arrays have no double quotes, so every widget that
has been read is sound (`sound_of_readBlock`). The fields of a form are blocks of one line. No chart
and no quiz fits on one line, and a form on one line has no fields (`shallow_of_parseWith`), so forms
are sound all the way down (`wellFormed_of_parse`), and it makes no difference which reader a
form uses for the forms among its fields (`parse_eq_parseWith_parse`).
-/

namespace Widgetry

open Text Outcome

/-! ## Sound widgets -/

/-- The texts of a question are scalars, and a double quote occurs only in a single answer that has
not been taken from an array. -/
structure Question.WellFormed (q : Question) : Prop where
  scalars : ∀ t ∈ q.scalars, Scalar t
  items : ∀ ts ∈ q.lists, ∀ t ∈ ts, Scalar t
  unquoted : ∀ ts ∈ q.lists, ∀ t ∈ ts, '"' ∈ t → ∃ w, q = .written w ∧ ts = [t] ∧ Grammar.opensArray t = false

namespace Widget

/-- The parts of a widget are as its grammar demands, its fields apart. The id and the title of a
chart may come from settings, which may be empty. -/
structure Sound (w : Widget) : Prop where
  id : w.keyword.isChart = false → w.id?.isSome = true
  scalars : w.keyword.isChart = false → ∀ t ∈ w.scalars, Scalar t
  items : ∀ ts ∈ w.lists, ∀ t ∈ ts, Quotable t
  numbers : ∀ n ∈ w.numbers, n.Reduced
  chart : ∀ c, w = .chart c →
    c.datasets ≠ [] ∧ ∀ d ∈ c.datasets, d.data.length = c.labels.length
  quiz : ∀ q, w = .quiz q →
    q.questions ≠ [] ∧ ∀ question ∈ q.questions, question.WellFormed

/-- A widget of one line: neither a chart nor a quiz, nor a form with fields. -/
structure Shallow (w : Widget) : Prop where
  not_chart : w.keyword.isChart = false
  not_quiz : w.keyword ≠ .quiz
  fields_eq_nil : w.fields = []

/-- A widget that is sound, with fields that are sound widgets of one line. -/
inductive WellFormed : Widget → Prop
  | intro {w : Widget} (sound : w.Sound) (fields : ∀ f ∈ w.fields, f.WellFormed)
      (shallow : ∀ f ∈ w.fields, f.Shallow) : w.WellFormed

end Widget

namespace Grammar

open Widget

/-! ## Lists -/

theorem quotable_of_readSelection {token : Text} {s : Selection}
    (h : readSelection token = .ok s) : ∀ ts ∈ s.lists, ∀ t ∈ ts, Quotable t := by
  rcases readSelection_eq_ok_iff.mp h with ⟨-, xs, hxs, rfl⟩ | ⟨-, rfl⟩
  · simpa [Selection.lists] using ArrayLiteral.quotable_of_mem_parse hxs
  · simp [Selection.lists]

theorem mem_of_readSelection {token : Text} {s : Selection} (h : readSelection token = .ok s) :
    ∀ t ∈ s.scalars, t = token := by
  rcases readSelection_eq_ok_iff.mp h with ⟨-, xs, -, rfl⟩ | ⟨-, rfl⟩
  · simp [Selection.scalars]
  · simp [Selection.scalars]

theorem quotable_of_answersOf {part single : Option Text} {several : Option (List Text)}
    (h : AnswersOf part single several) : ∀ ts ∈ several, ∀ t ∈ ts, Quotable t := by
  rcases h with ⟨-, -, rfl⟩ | ⟨token, xs, -, -, hxs, -, rfl⟩ | ⟨token, -, -, -, rfl⟩
  · simp
  · simpa using ArrayLiteral.quotable_of_mem_parse hxs
  · simp

theorem part_of_answersOf {part single : Option Text} {several : Option (List Text)}
    (h : AnswersOf part single several) : ∀ t ∈ single, part = some t := by
  rcases h with ⟨-, rfl, -⟩ | ⟨token, xs, -, -, -, rfl, -⟩ | ⟨token, rfl, -, rfl, -⟩
  · simp
  · simp
  · simp

/-! ## Widgets of one line -/

section Lines

variable {parts : List Text}

/-- A widget with an id, whose texts are drawn from the parts of a line and whose lists come from
arrays. -/
theorem sound_of_parts {w : Widget} (hparts : ∀ t ∈ parts, Scalar t)
    (hchart : w.keyword.isChart = false) (hquiz : w.keyword ≠ .quiz) (hid : w.id?.isSome = true)
    (hscalars : ∀ t ∈ w.scalars, t ∈ parts) (hitems : ∀ ts ∈ w.lists, ∀ t ∈ ts, Quotable t)
    (hnumbers : ∀ n ∈ w.numbers, n.Reduced) : w.Sound where
  id _ := hid
  scalars _ t ht := hparts t (hscalars t ht)
  items := hitems
  numbers := hnumbers
  chart := by
    rintro c rfl
    exact absurd hchart (by simp [Widget.keyword, Keyword.isChart])
  quiz := by
    rintro q rfl
    exact absurd rfl hquiz

variable (hparts : ∀ t ∈ parts, Scalar t)
include hparts

theorem sound_of_readTextInput {w : TextInput} (h : readTextInput parts = .ok w) :
    Sound (.textInput w) := by
  obtain ⟨id, rest, rfl, rfl⟩ := readTextInput_eq_ok_iff.mp h
  refine sound_of_parts hparts rfl (by simp [Widget.keyword]) rfl ?_ (by simp [lists])
    (by simp [numbers])
  simp only [scalars]
  grind [List.mem_of_getElem?]

theorem sound_of_readChoiceInput {k : Keyword} {w : ChoiceInput}
    (h : readChoiceInput k parts = .ok w) : Sound (.buttonGroup w) ∧ Sound (.select w) := by
  obtain ⟨id, array, rest, choices, rfl, hchoices, rfl⟩ := readChoiceInput_eq_ok_iff.mp h
  have hitems : ∀ ts ∈ [choices], ∀ t ∈ ts, Quotable t := by
    simpa using ArrayLiteral.quotable_of_mem_parse hchoices
  have hscalars : ∀ t ∈ [some id, none, rest[0]?].filterMap (fun x => x),
      t ∈ id :: array :: rest := by
    grind [List.mem_of_getElem?]
  exact ⟨sound_of_parts hparts rfl (by simp [Widget.keyword]) rfl hscalars hitems (by simp [numbers]),
    sound_of_parts hparts rfl (by simp [Widget.keyword]) rfl hscalars hitems (by simp [numbers])⟩

theorem sound_of_readMultiSelect {w : MultiSelect} (h : readMultiSelect parts = .ok w) :
    Sound (.selectMulti w) := by
  obtain ⟨id, array, rest, choices, initial, rfl, hchoices, hinitial, rfl⟩ :=
    readMultiSelect_eq_ok_iff.mp h
  have hquotable := ArrayLiteral.quotable_of_mem_parse hchoices
  rcases hinitial with ⟨rfl, rfl⟩ | ⟨token, more, s, rfl, hs, rfl⟩
  · refine sound_of_parts hparts rfl (by simp [Widget.keyword]) rfl (by simp [scalars]) ?_
      (by simp [numbers])
    simpa [lists] using hquotable
  · refine sound_of_parts hparts rfl (by simp [Widget.keyword]) rfl ?_ ?_ (by simp [numbers])
    · have hmem := mem_of_readSelection hs
      simp only [scalars]
      grind
    · have hselection := quotable_of_readSelection hs
      simp only [lists]
      grind

theorem sound_of_readSlider {w : Slider} (h : readSlider parts = .ok w) : Sound (.slider w) := by
  obtain ⟨id, a, b, c, rest, min, max, step, rfl, hmin, hmax, hstep, rfl⟩ :=
    readSlider_eq_ok_iff.mp h
  refine sound_of_parts hparts rfl (by simp [Widget.keyword]) rfl (by simp [scalars])
    (by simp [lists]) ?_
  intro n hn
  simp only [numbers, List.mem_cons, Option.mem_toList, Option.bind_eq_some_iff] at hn
  rcases hn with rfl | rfl | rfl | ⟨d, -, hd⟩
  · exact Number.reduced_of_read? hmin
  · exact Number.reduced_of_read? hmax
  · exact Number.reduced_of_read? hstep
  · exact Number.reduced_of_read? hd

theorem sound_of_readMultipleChoice {w : MultipleChoice} (h : readMultipleChoice parts = .ok w) :
    Sound (.multipleChoice w) := by
  obtain ⟨id, question, array, rest, choices, rfl, hchoices, rfl⟩ :=
    readMultipleChoice_eq_ok_iff.mp h
  have hquotable := ArrayLiteral.quotable_of_mem_parse hchoices
  refine sound_of_parts hparts rfl (by simp [Widget.keyword]) rfl ?_ ?_ (by simp [numbers])
  · simp only [scalars]
    grind [List.mem_of_getElem?]
  · simpa [lists] using hquotable

theorem sound_of_readShortAnswer {w : ShortAnswer} (h : readShortAnswer parts = .ok w) :
    Sound (.shortAnswer w) := by
  obtain ⟨id, question, rest, single, several, rfl, hanswers, rfl⟩ :=
    readShortAnswer_eq_ok_iff.mp h
  have hsingle := part_of_answersOf hanswers
  have hseveral := quotable_of_answersOf hanswers
  refine sound_of_parts hparts rfl (by simp [Widget.keyword]) rfl ?_ ?_ (by simp [numbers])
  · simp only [scalars]
    grind [List.mem_of_getElem?]
  · simpa [lists] using hseveral

theorem wellFormed_of_readChoiceQuestion {line : Int} {q : ChoiceQuestion}
    (h : readChoiceQuestion line parts = .ok q) : Question.WellFormed (.choice q) := by
  obtain ⟨id, question, token, array, rest, points, choices, rfl, -, hchoices, rfl⟩ :=
    readChoiceQuestion_eq_ok_iff.mp h
  have hquotable := ArrayLiteral.quotable_of_mem_parse hchoices
  refine ⟨?_, ?_, ?_⟩
  · intro t ht
    apply hparts
    simp only [Question.scalars] at ht
    grind [List.mem_of_getElem?]
  · simp only [Question.lists, List.mem_singleton]
    rintro ts rfl t ht
    exact (hquotable t ht).toScalar
  · simp only [Question.lists, List.mem_singleton]
    rintro ts rfl t ht hquote
    exact absurd hquote (hquotable t ht).unquoted

/-- A single answer may have double quotes, since it is a token and no item of an array. -/
theorem wellFormed_of_readWrittenQuestion {line : Int} {q : WrittenQuestion}
    (h : readWrittenQuestion line parts = .ok q) : Question.WellFormed (.written q) := by
  obtain ⟨id, question, token, rest, points, single, several, rfl, -, hanswers, rfl⟩ :=
    readWrittenQuestion_eq_ok_iff.mp h
  have hscalars : ∀ t ∈ id :: question :: (rest[0]?).toList, Scalar t := by
    intro t ht
    apply hparts
    grind [List.mem_of_getElem?]
  rcases hanswers with ⟨-, rfl, rfl⟩ | ⟨answer, xs, -, -, hxs, rfl, rfl⟩ |
    ⟨answer, hanswer, hopens, rfl, rfl⟩
  · exact ⟨hscalars, by simp [Question.lists], by simp [Question.lists]⟩
  · have hquotable := ArrayLiteral.quotable_of_mem_parse hxs
    refine ⟨hscalars, ?_, ?_⟩
    · simpa [Question.lists] using fun t ht => (hquotable t ht).toScalar
    · simpa [Question.lists] using fun t ht hquote => absurd hquote (hquotable t ht).unquoted
  · have hscalar : Scalar answer := hparts answer (by grind [List.mem_of_getElem?])
    refine ⟨hscalars, ?_, ?_⟩
    · simpa [Question.lists] using hscalar
    · simpa [Question.lists] using fun _ => hopens

end Lines

/-! ## Widgets of several lines -/

theorem scalar_of_header {source : Text} {parts : List Text}
    (h : (tokenize (lines source).1).tail = parts) : ∀ t ∈ parts, Scalar t := by
  intro t ht
  rw [← h] at ht
  exact scalar_of_mem_tokenize (List.mem_of_mem_tail ht)

theorem sound_of_readForm {child : Text → Except ParseError Widget} {source : Text} {w : Widget}
    (h : readForm child source = .ok w) : w.Sound := by
  obtain ⟨id, rest, hheader, rfl⟩ := readForm_eq_ok_iff.mp h
  refine sound_of_parts (scalar_of_header hheader) rfl (by simp [Widget.keyword]) rfl ?_
    (by simp [lists]) (by simp [numbers])
  simp only [scalars]
  grind [List.mem_of_getElem?]

theorem sound_of_readChart {kind : ChartKind} {source : Text} {c : Chart}
    (h : readChart kind source = .ok c) : Sound (.chart c) := by
  obtain ⟨-, header, ls, table, -, htable, rfl⟩ := readChart_eq_ok_iff.mp h
  obtain ⟨hne, hshape⟩ := shape_of_readTable htable
  -- nothing is demanded of the id and the title
  refine ⟨?_, ?_, by simp [lists], ?_, ?_, by simp⟩
  · simp [Widget.keyword, Keyword.isChart]
  · simp [Widget.keyword, Keyword.isChart]
  · intro n hn
    obtain ⟨d, hd, hn⟩ := List.mem_flatMap.mp hn
    exact (hshape d hd).2 n hn
  · rintro c hc
    obtain rfl := Widget.chart.inj hc
    exact ⟨hne, fun d hd => (hshape d hd).1⟩

theorem wellFormed_of_mem_questions {source : Text} {read : Nat} {questions : List Question}
    (h : (questionLines source read).mapM (fun l => readQuestion l.number l.word l.parts) =
      .ok questions) {q : Question} (hq : q ∈ questions) : q.WellFormed := by
  obtain ⟨l, hl, hread⟩ := exists_of_mem_of_mapM_eq_ok h hq
  obtain ⟨line, -, htokens⟩ := tokenize_of_mem_questionLines hl
  have hparts : ∀ t ∈ l.parts, Scalar t := by
    intro t ht
    apply scalar_of_mem_tokenize (t := trim line)
    rw [htokens]
    exact List.mem_cons_of_mem _ ht
  rcases readQuestion_eq_ok_iff.mp hread with ⟨w, -, hw, rfl⟩ | ⟨w, -, hw, rfl⟩
  · exact wellFormed_of_readChoiceQuestion hparts hw
  · exact wellFormed_of_readWrittenQuestion hparts hw

theorem sound_of_readQuiz {source : Text} {q : Quiz} (h : readQuiz source = .ok q) :
    Sound (.quiz q) := by
  obtain ⟨id, title, rest, settings, read, questions, hheader, -, hquestions, hne, rfl⟩ :=
    readQuiz_eq_ok_iff.mp h
  have hparts := scalar_of_header hheader
  refine ⟨fun _ => rfl, ?_, by simp [lists], by simp [numbers], by simp, ?_⟩
  · intro _ t ht
    apply hparts
    simp only [scalars, QuizSettings.applyTo, emptyQuiz] at ht
    grind
  · rintro q hq
    obtain rfl := Widget.quiz.inj hq
    exact ⟨hne, fun question hquestion => wellFormed_of_mem_questions hquestions hquestion⟩

/-- **Every widget that has been read is sound**, whatever reads the fields of forms. -/
theorem sound_of_readBlock {child : Text → Except ParseError Widget} {k : Keyword}
    {parts : List Text} {source : Text} {w : Widget} (hparts : ∀ t ∈ parts, Scalar t)
    (h : readBlock child k parts source = .ok w) : w.Sound := by
  cases k with
  | textInput =>
    obtain ⟨w, hw, rfl⟩ := map_eq_ok_iff.mp h
    exact sound_of_readTextInput hparts hw
  | buttonGroup =>
    obtain ⟨w, hw, rfl⟩ := map_eq_ok_iff.mp h
    exact (sound_of_readChoiceInput hparts hw).1
  | select =>
    obtain ⟨w, hw, rfl⟩ := map_eq_ok_iff.mp h
    exact (sound_of_readChoiceInput hparts hw).2
  | selectMulti =>
    obtain ⟨w, hw, rfl⟩ := map_eq_ok_iff.mp h
    exact sound_of_readMultiSelect hparts hw
  | slider =>
    obtain ⟨w, hw, rfl⟩ := map_eq_ok_iff.mp h
    exact sound_of_readSlider hparts hw
  | form => exact sound_of_readForm h
  | chart kind =>
    obtain ⟨w, hw, rfl⟩ := map_eq_ok_iff.mp h
    exact sound_of_readChart hw
  | multipleChoice =>
    obtain ⟨w, hw, rfl⟩ := map_eq_ok_iff.mp h
    exact sound_of_readMultipleChoice hparts hw
  | shortAnswer =>
    obtain ⟨w, hw, rfl⟩ := map_eq_ok_iff.mp h
    exact sound_of_readShortAnswer hparts hw
  | quiz =>
    obtain ⟨w, hw, rfl⟩ := map_eq_ok_iff.mp h
    exact sound_of_readQuiz hw

theorem sound_of_parseWith {child : Text → Except ParseError Widget} {t : Text} {w : Widget}
    (h : parseWith child t = .ok w) : w.Sound := by
  obtain ⟨parts, htokens, hblock⟩ := parseWith_eq_ok h
  refine sound_of_readBlock ?_ hblock
  intro token htoken
  apply scalar_of_mem_tokenize (t := trim t)
  rw [htokens]
  exact List.mem_cons_of_mem _ htoken

/-! ## Fields -/

theorem not_mem_of_fieldText? {line field : Text} {c : Char} (h : fieldText? line = some field)
    (hc : c ∉ line) : c ∉ field := by
  unfold fieldText? at h
  split at h
  · rw [← Option.some.inj h]
    exact fun hmem => hc (by simp [hmem])
  · exact absurd h (by simp)

/-- A field of a form stands on a line of its own, and the reader of fields has read it. -/
theorem exists_of_mem_fields {child : Text → Except ParseError Widget} {t : Text} {w f : Widget}
    (h : parseWith child t = .ok w) (hf : f ∈ w.fields) :
    ∃ field, '\n' ∉ field ∧ child field = .ok f := by
  obtain ⟨parts, -, hblock⟩ := parseWith_eq_ok h
  cases w with
  | form =>
    obtain ⟨id, rest, -, hform⟩ := readForm_eq_ok_iff.mp hblock
    rw [hform] at hf
    obtain ⟨line, hline, hf⟩ := List.mem_filterMap.mp hf
    obtain ⟨field, hfield, hf⟩ := Option.bind_eq_some_iff.mp hf
    refine ⟨field, not_mem_of_fieldText? hfield (not_mem_of_mem_lines hline), ?_⟩
    cases hchild : child field with
    | ok f' =>
      rw [hchild] at hf
      exact congrArg _ (Option.some.inj hf)
    | error e =>
      rw [hchild] at hf
      exact absurd hf (by simp [Except.toOption])
  | _ => exact absurd hf (by simp [fields])

/-- **A block of one line is no chart and no quiz, and has no fields.** -/
theorem shallow_of_parseWith {child : Text → Except ParseError Widget} {t : Text} {w : Widget}
    (ht : '\n' ∉ t) (h : parseWith child t = .ok w) : w.Shallow := by
  obtain ⟨parts, -, hblock⟩ := parseWith_eq_ok h
  -- there is nothing below the first line, neither fields nor a table nor questions
  have hlines : lines (trim t) = (trim t, []) :=
    lines_of_not_mem fun hmem => ht (mem_of_mem_trim hmem)
  cases w with
  | form =>
    obtain ⟨id, rest, -, hform⟩ := readForm_eq_ok_iff.mp hblock
    rw [hform]
    exact ⟨rfl, by simp [Widget.keyword], by rw [fields, hlines, List.filterMap_nil]⟩
  | chart c =>
    obtain ⟨c', hc, -⟩ := map_eq_ok_iff.mp hblock
    obtain ⟨hbody, -⟩ := readChart_eq_ok_iff.mp hc
    rw [hlines] at hbody
    exact absurd rfl hbody
  | quiz q =>
    obtain ⟨q', hq, -⟩ := map_eq_ok_iff.mp hblock
    obtain ⟨_, _, _, _, read, questions, -, -, hquestions, hne, -⟩ := readQuiz_eq_ok_iff.mp hq
    rw [questionLines, hlines, List.drop_nil, List.zipIdx_nil, List.filterMap_nil,
      List.mapM_nil] at hquestions
    exact absurd (pure_eq_ok_iff.mp hquestions).symm hne
  | _ => exact ⟨rfl, by simp [Widget.keyword], rfl⟩

/-- A form whose fields are read as well-formed widgets is well formed. -/
theorem wellFormed_of_child {child : Text → Except ParseError Widget} {t : Text} {w : Widget}
    (hchild : ∀ field f, '\n' ∉ field → child field = .ok f → f.WellFormed ∧ f.Shallow)
    (h : parseWith child t = .ok w) : w.WellFormed := by
  have hfields : ∀ f ∈ w.fields, f.WellFormed ∧ f.Shallow := by
    intro f hf
    obtain ⟨field, hline, hread⟩ := exists_of_mem_fields h hf
    exact hchild field f hline hread
  exact .intro (sound_of_parseWith h) (fun f hf => (hfields f hf).1) fun f hf => (hfields f hf).2

theorem wellFormed_of_parseLine {t : Text} {w : Widget} (h : parseLine t = .ok w) :
    w.WellFormed :=
  wellFormed_of_child (fun _ _ _ hchild => absurd hchild (by simp)) h

theorem wellFormed_of_parse {t : Text} {w : Widget} (h : parse t = .ok w) : w.WellFormed :=
  wellFormed_of_child
    (fun _ _ hline hchild => ⟨wellFormed_of_parseLine hchild, shallow_of_parseWith hline hchild⟩) h

/-! ## Two levels of reading -/

theorem readForm_congr {child child' : Text → Except ParseError Widget} {source : Text}
    (h : ∀ line ∈ (lines source).2, ∀ field, fieldText? line = some field →
      child field = child' field) : readForm child source = readForm child' source := by
  have hfields : ((lines source).2.filterMap fun line =>
        (fieldText? line).bind fun field => (child field).toOption) =
      (lines source).2.filterMap fun line =>
        (fieldText? line).bind fun field => (child' field).toOption := by
    apply List.filterMap_congr
    intro line hline
    cases hfield : fieldText? line with
    | none => rfl
    | some field => rw [Option.bind_some, Option.bind_some, h line hline field hfield]
  simp only [readForm, hfields]

theorem readBlock_congr {child child' : Text → Except ParseError Widget} (k : Keyword)
    (parts : List Text) {source : Text}
    (h : ∀ line ∈ (lines source).2, ∀ field, fieldText? line = some field →
      child field = child' field) :
    readBlock child k parts source = readBlock child' k parts source := by
  cases k with
  | form => exact readForm_congr h
  | _ => rfl

theorem parseWith_congr {child child' : Text → Except ParseError Widget} {t : Text}
    (h : ∀ line ∈ (lines (trim t)).2, ∀ field, fieldText? line = some field →
      child field = child' field) : parseWith child t = parseWith child' t := by
  simp only [parseWith, readBlock_congr _ _ h]

/-- On one line it does not matter how fields are read. -/
theorem parseWith_eq_of_line (child child' : Text → Except ParseError Widget) {t : Text}
    (ht : '\n' ∉ t) : parseWith child t = parseWith child' t := by
  apply parseWith_congr
  rw [lines_of_not_mem fun hmem => ht (mem_of_mem_trim hmem)]
  simp

/-- **Forms read their fields as blocks are read**: two levels of reading are all there is. -/
theorem parse_eq_parseWith_parse (t : Text) : parse t = parseWith parse t := by
  apply parseWith_congr
  intro line hline field hfield
  exact parseWith_eq_of_line _ _ (not_mem_of_fieldText? hfield (not_mem_of_mem_lines hline))

end Grammar

/-! ## Reports -/

/-- **Every accepted block describes a well-formed widget**, whose keyword is the first token. -/
theorem wellFormed_of_success {t : Text} (h : (parseBlock t).success = true) :
    ∃ w, parseBlock t = ⟨true, some w, none⟩ ∧ w.keyword ∈ Keyword.all ∧
      (tokenize (trim t)).head? = some w.keyword.text ∧ w.WellFormed := by
  cases hparse : Grammar.parse t with
  | ok w =>
    exact ⟨w, by rw [parseBlock, hparse]; rfl, Keyword.mem_all _,
      Grammar.head_tokenize_of_parse hparse, Grammar.wellFormed_of_parse hparse⟩
  | error cause =>
    rw [parseBlock, hparse] at h
    exact absurd h (by simp [ParseResult.ofOutcome])

/-- A form with a form, a chart and two inputs for fields. The chart is left out, and the form on
the line has no fields. -/
theorem wellFormed_form :
    let t := "form f \"Send it\"\n  form g\n  chart-bar c\n".toList ++
      "  select s [a 'b c']\n  slider v -1 2.5 1e999".toList
    (parseBlock t).success = true ∧
      ∃ w, parseBlock t = ⟨true, some w, none⟩ ∧ w.keyword ∈ Keyword.all ∧
        (tokenize (trim t)).head? = some w.keyword.text ∧ w.WellFormed :=
  ⟨by decide +kernel, wellFormed_of_success (by decide +kernel)⟩

end Widgetry
