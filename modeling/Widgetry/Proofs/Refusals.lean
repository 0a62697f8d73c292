import Widgetry.Proofs.BlockGrammar
import Widgetry.Proofs.Failure
import Widgetry.Proofs.InRange
import Widgetry.Widget.Parts

/-!
# How a block is refused

Every refusal is reported with a text (`report_cases`), and the report of an integer literal that is
too long differs from all others in its first character. Integers are read in three places only: the
height of a chart, the passing score of a quiz and the points of a question. So that report stands for
such a literal in a chart or a quiz (`holdsOversized_of_parseWith`), and no form and no widget of one
line is ever refused with it (`outcome_of_parseBlock`).
-/

namespace Widgetry

open Text Outcome

/-! ## Reports -/

/-- A text that begins with a character other than the first one of a failure to read. -/
def Wording (t : Text) : Prop := t ≠ [] ∧ t.head? ≠ some 'F'

instance (t : Text) : Decidable (Wording t) := inferInstanceAs (Decidable (_ ∧ _))

theorem Wording.append {a : Text} (ha : Wording a) (b : Text) : Wording (a ++ b) := by
  obtain ⟨hne, hhead⟩ := ha
  refine ⟨by simp [hne], ?_⟩
  rw [List.head?_append_of_ne_nil _ hne]
  exact hhead

theorem Keyword.wording_requirement (k : Keyword) : Wording k.requirement := by
  have hall : ∀ k ∈ all, Wording k.requirement := by decide +kernel
  exact hall k (mem_all k)

theorem QuestionKind.wording_requirement (line : Int) (kind : QuestionKind) :
    Wording (kind.requirement line) := by
  cases kind with
  | choice => exact (Wording.append (by decide +kernel) _).append _
  | written => exact (Wording.append (by decide +kernel) _).append _

theorem ArrayPlace.wording_message (place : ArrayPlace) : Wording place.message := by
  cases place with
  | choices => exact (by decide +kernel : Wording choices.message)
  | selection => exact (by decide +kernel : Wording selection.message)
  | answers => exact (by decide +kernel : Wording answers.message)
  | questionChoices line => exact Wording.append (by decide +kernel) _
  | questionAnswers line => exact Wording.append (by decide +kernel) _

namespace ParseError

/-- **Every report is a text**, and only that of a literal that is too long begins like a failure to
read. -/
theorem report_cases (cause : ParseError) :
    (∃ literal, cause = .oversized literal) ∨ Wording cause.report := by
  cases cause with
  | oversized literal => exact Or.inl ⟨literal, rfl⟩
  | emptyInput => exact Or.inr (by decide +kernel : Wording emptyInput.message)
  | unknownType word => exact Or.inr (Wording.append (by decide +kernel) _)
  | incomplete keyword => exact Or.inr keyword.wording_requirement
  | notAnArray place => exact Or.inr ((place.wording_message.append _).append _)
  | boundsNotNumbers => exact Or.inr (by decide +kernel : Wording boundsNotNumbers.message)
  | noTable => exact Or.inr (by decide +kernel : Wording noTable.message)
  | emptyTableHeader => exact Or.inr (by decide +kernel : Wording emptyTableHeader.message)
  | narrowTable => exact Or.inr (by decide +kernel : Wording narrowTable.message)
  | rowWidth row found expected =>
    exact Or.inr (((((Wording.append (by decide +kernel) _).append _).append _).append _).append _)
  | cellNotNumber cell row column =>
    exact Or.inr (((((Wording.append (by decide +kernel) _).append _).append _).append _).append _)
  | incompleteQuestion kind line => exact Or.inr (kind.wording_requirement line)
  | pointsNotNumber token line =>
    exact Or.inr (((Wording.append (by decide +kernel) _).append _).append _)
  | unknownQuestion word line =>
    exact Or.inr (((Wording.append (by decide +kernel) _).append _).append _)
  | noQuestions => exact Or.inr (by decide +kernel : Wording noQuestions.message)

theorem report_ne_nil (cause : ParseError) : cause.report ≠ [] := by
  rcases report_cases cause with ⟨literal, rfl⟩ | hwording
  · exact (by decide +kernel : "Failed to parse widget: ValueError".toList ≠ [])
  · exact hwording.1

/-- The report of a failure to read tells a literal that is too long. -/
theorem oversized_of_report {cause : ParseError}
    (h : "Failed to parse widget".toList <+: cause.report) : ∃ literal, cause = .oversized literal := by
  rcases report_cases cause with hcause | ⟨-, hhead⟩
  · exact hcause
  · -- every other report differs in its first character
    obtain ⟨rest, hrest⟩ := h
    rw [← hrest, List.head?_append_of_ne_nil _ (by decide +kernel)] at hhead
    exact absurd (by decide +kernel) hhead

end ParseError

namespace Grammar

/-! ## Grammars that read no integers -/

section NoIntegers

variable {parts : List Text} {literal : OversizedInteger}

theorem readArray_ne_oversized {place : ArrayPlace} {token : Text} :
    readArray place token ≠ .error (.oversized literal) := by
  unfold readArray
  split
  · simp
  · simp

theorem readSelection_ne_oversized {token : Text} :
    readSelection token ≠ .error (.oversized literal) := by
  unfold readSelection
  split
  · intro h
    exact readArray_ne_oversized (map_eq_error_iff.mp h)
  · simp

theorem readTextInput_ne_oversized : readTextInput parts ≠ .error (.oversized literal) := by
  unfold readTextInput
  split
  · simp
  · simp

theorem readChoiceInput_ne_oversized {k : Keyword} :
    readChoiceInput k parts ≠ .error (.oversized literal) := by
  intro h
  unfold readChoiceInput at h
  split at h
  · rcases bind_eq_error_iff.mp h with h | ⟨choices, -, h⟩
    · exact readArray_ne_oversized h
    · exact pure_ne_error h
  · exact absurd h (by simp)

theorem readMultiSelect_ne_oversized : readMultiSelect parts ≠ .error (.oversized literal) := by
  intro h
  unfold readMultiSelect at h
  split at h
  · rcases bind_eq_error_iff.mp h with h | ⟨choices, -, h⟩
    · exact readArray_ne_oversized h
    · split at h
      · exact pure_ne_error h
      · rcases bind_eq_error_iff.mp h with h | ⟨initial, -, h⟩
        · exact readSelection_ne_oversized h
        · exact pure_ne_error h
  · exact absurd h (by simp)

theorem readSlider_ne_oversized : readSlider parts ≠ .error (.oversized literal) := by
  unfold readSlider
  split
  · split
    · simp
    · simp
  · simp

theorem readMultipleChoice_ne_oversized :
    readMultipleChoice parts ≠ .error (.oversized literal) := by
  intro h
  unfold readMultipleChoice at h
  split at h
  · rcases bind_eq_error_iff.mp h with h | ⟨choices, -, h⟩
    · exact readArray_ne_oversized h
    · exact pure_ne_error h
  · exact absurd h (by simp)

theorem readAnswers_ne_oversized {place : ArrayPlace} {part : Option Text} :
    readAnswers place part ≠ .error (.oversized literal) := by
  intro h
  unfold readAnswers at h
  split at h
  · exact absurd h (by simp)
  · split at h
    · exact readArray_ne_oversized (map_eq_error_iff.mp h)
    · exact absurd h (by simp)

theorem readShortAnswer_ne_oversized : readShortAnswer parts ≠ .error (.oversized literal) := by
  intro h
  rcases parts with _ | ⟨id, _ | ⟨question, rest⟩⟩
  · exact absurd h (by simp [readShortAnswer])
  · exact absurd h (by simp [readShortAnswer])
  · rw [readShortAnswer_cons_cons] at h
    exact readAnswers_ne_oversized (map_eq_error_iff.mp h)

theorem readForm_ne_oversized {child : Text → Except ParseError Widget} {source : Text} :
    readForm child source ≠ .error (.oversized literal) := by
  unfold readForm
  dsimp only
  split
  · simp
  · simp

theorem readCell_ne_oversized {row column : Nat} {cell : Text} :
    readCell row cell column ≠ .error (.oversized literal) := by
  unfold readCell
  split
  · simp
  · simp

theorem readRow_ne_oversized {width row : Nat} {line : Text} :
    readRow width line row ≠ .error (.oversized literal) := by
  intro h
  simp only [readRow] at h
  split at h
  · obtain ⟨⟨cell, column⟩, -, hcell⟩ := exists_of_mapM_eq_error (map_eq_error_iff.mp h)
    exact readCell_ne_oversized hcell
  · exact absurd h (by simp)

/-- The numbers of a table are no integer literals. -/
theorem readTable_ne_oversized {ls : List Text} :
    readTable ls ≠ .error (.oversized literal) := by
  intro h
  unfold readTable at h
  split at h
  · exact absurd h (by simp)
  · split at h
    · exact absurd h (by simp)
    · split at h
      · exact absurd h (by simp)
      · rcases bind_eq_error_iff.mp h with h | ⟨rows, -, h⟩
        · obtain ⟨⟨line, row⟩, -, hrow⟩ := exists_of_mapM_eq_error h
          exact readRow_ne_oversized hrow
        · exact pure_ne_error h

end NoIntegers

/-! ## The three places of integers -/

/-- A chart setting with a height that is too long. -/
def OversizedHeight (line : Text) : Prop :=
  ∃ value, readChartSetting? (trim line) = some (.height, value) ∧ Oversized value

theorem oversized_of_set {h : ChartHeader} {key : ChartKey} {value : Text} {e : OversizedInteger}
    (herror : h.set key value = .error e) : key = .height ∧ Oversized value := by
  cases key with
  | height => exact ⟨rfl, (readInteger_eq_error_iff.mp (map_eq_error_iff.mp herror)).1⟩
  | id => exact absurd herror (by simp [ChartHeader.set])
  | title => exact absurd herror (by simp [ChartHeader.set])

theorem oversizedHeight_of_readChartHeader {h : ChartHeader} {table ls : List Text}
    {e : OversizedInteger} (herror : readChartHeader h table ls = .error e) :
    ∃ line ∈ ls, OversizedHeight line := by
  induction ls generalizing h table with
  | nil => exact absurd herror (by simp [readChartHeader])
  | cons line ls ih =>
    rw [readChartHeader] at herror
    split at herror
    · obtain ⟨line', hline', hlong⟩ := ih herror
      exact ⟨line', List.mem_cons_of_mem line hline', hlong⟩
    · split at herror
      · exact absurd herror (by simp)
      · rename_i key value hsetting
        split at herror
        · obtain ⟨line', hline', hlong⟩ := ih herror
          exact ⟨line', List.mem_cons_of_mem line hline', hlong⟩
        · rename_i e' hset
          obtain ⟨rfl, hlong⟩ := oversized_of_set hset
          exact ⟨line, List.mem_cons_self, value, hsetting, hlong⟩

theorem oversizedHeight_of_readChart {kind : ChartKind} {source : Text} {e : OversizedInteger}
    (h : readChart kind source = .error (.oversized e)) :
    ∃ line ∈ (lines source).2, OversizedHeight line := by
  simp only [readChart] at h
  split at h
  · rcases bind_eq_error_iff.mp h with h | ⟨_, habort, -⟩
    · exact absurd (Except.error.inj h) (by simp)
    · exact absurd habort throw_ne_ok
  · split at h
    · rcases bind_eq_error_iff.mp h with h | ⟨header, -, h⟩
      · exact absurd h pure_ne_error
      · rcases bind_eq_error_iff.mp h with h | ⟨table, -, h⟩
        · exact absurd h readTable_ne_oversized
        · exact absurd h pure_ne_error
    · rcases bind_eq_error_iff.mp h with h | ⟨header, -, h⟩
      · obtain ⟨e', herror, -⟩ := mapError_eq_error_iff.mp h
        exact oversizedHeight_of_readChartHeader herror
      · rcases bind_eq_error_iff.mp h with h | ⟨table, -, h⟩
        · exact absurd h readTable_ne_oversized
        · exact absurd h pure_ne_error

theorem oversized_of_readPoints {line : Int} {token : Text} {e : OversizedInteger}
    (h : readPoints line token = .error (.oversized e)) : Oversized token := by
  unfold readPoints at h
  split at h
  · exact absurd h (by simp)
  · exact absurd h (by simp)
  · rename_i herror
    exact (readInteger_eq_error_iff.mp herror).1

theorem oversizedPoints_of_readQuestion {line : Int} {word : Text} {parts : List Text}
    {e : OversizedInteger} (h : readQuestion line word parts = .error (.oversized e)) :
    Streaming.OversizedPoints (word :: parts) := by
  unfold readQuestion at h
  split at h
  · rename_i hkind
    replace h := map_eq_error_iff.mp h
    unfold readChoiceQuestion at h
    split at h
    · rename_i id question token array rest
      rcases bind_eq_error_iff.mp h with h | ⟨points, -, h⟩
      · exact ⟨.choice, by rw [QuestionKind.text_of_ofText? hkind]; rfl, token, rfl,
          oversized_of_readPoints h⟩
      · rcases bind_eq_error_iff.mp h with h | ⟨choices, -, h⟩
        · exact absurd h readArray_ne_oversized
        · exact absurd h pure_ne_error
    · exact absurd h (by simp)
  · rename_i hkind
    replace h := map_eq_error_iff.mp h
    rcases parts with _ | ⟨id, _ | ⟨question, _ | ⟨token, rest⟩⟩⟩
    · exact absurd h (by simp [readWrittenQuestion])
    · exact absurd h (by simp [readWrittenQuestion])
    · exact absurd h (by simp [readWrittenQuestion])
    · rw [readWrittenQuestion_cons] at h
      rcases bind_eq_error_iff.mp h with h | ⟨points, -, h⟩
      · exact ⟨.written, by rw [QuestionKind.text_of_ofText? hkind]; rfl, token, rfl,
          oversized_of_readPoints h⟩
      · exact absurd (map_eq_error_iff.mp h) readAnswers_ne_oversized
  · exact absurd h (by simp)

theorem oversized_of_readQuiz {source : Text} {e : OversizedInteger}
    (h : readQuiz source = .error (.oversized e)) :
    ∃ line ∈ (lines source).2,
      OversizedScore line ∨ Streaming.OversizedPoints (tokenize (trim line)) := by
  simp only [readQuiz] at h
  split at h
  · rcases bind_eq_error_iff.mp h with h | ⟨⟨settings, read⟩, -, h⟩
    · obtain ⟨e', herror, -⟩ := mapError_eq_error_iff.mp h
      obtain ⟨line, hline, hlong⟩ := exists_readQuizSettings_eq_error_iff.mp ⟨e', herror⟩
      exact ⟨line, List.mem_of_mem_take hline, Or.inl hlong⟩
    · rcases bind_eq_error_iff.mp h with h | ⟨questions, -, h⟩
      · obtain ⟨l, hl, hquestion⟩ := exists_of_mapM_eq_error h
        obtain ⟨line, hline, htokens⟩ := tokenize_of_mem_questionLines hl
        refine ⟨line, List.mem_of_mem_drop hline, Or.inr ?_⟩
        rw [htokens]
        exact oversizedPoints_of_readQuestion hquestion
      · split at h
        · rcases bind_eq_error_iff.mp h with h | ⟨_, habort, -⟩
          · exact absurd (Except.error.inj h) (by simp)
          · exact absurd habort throw_ne_ok
        · exact absurd h pure_ne_error
  · exact absurd h (by simp)

end Grammar

/-! ## Outcomes -/

/-- The block is a chart with a height that is too long, or a quiz with a passing score or points
that are too long. -/
def HoldsOversized (t : Text) : Prop :=
  (∃ kind : ChartKind, (tokenize (trim t)).head? = some (Keyword.chart kind).text ∧
      ∃ line ∈ (lines (trim t)).2, Grammar.OversizedHeight line) ∨
    ((tokenize (trim t)).head? = some Keyword.quiz.text ∧
      ∃ line ∈ (lines (trim t)).2,
        Grammar.OversizedScore line ∨ Streaming.OversizedPoints (tokenize (trim line)))

namespace Grammar

/-- **Only charts and quizzes are refused over an integer literal that is too long**, and only over
one that they hold. -/
theorem holdsOversized_of_parseWith {child : Text → Except ParseError Widget} {t : Text}
    {literal : OversizedInteger} (h : parseWith child t = .error (.oversized literal)) :
    HoldsOversized t := by
  simp only [parseWith] at h
  split at h
  · exact absurd h (by simp)
  · rename_i word parts htokens
    split at h
    · exact absurd h (by simp)
    · rename_i k hk
      have hhead : (tokenize (trim t)).head? = some k.text := by
        rw [htokens, Keyword.text_of_ofText? hk]
        rfl
      cases k with
      | textInput => exact absurd (map_eq_error_iff.mp h) readTextInput_ne_oversized
      | buttonGroup => exact absurd (map_eq_error_iff.mp h) readChoiceInput_ne_oversized
      | select => exact absurd (map_eq_error_iff.mp h) readChoiceInput_ne_oversized
      | selectMulti => exact absurd (map_eq_error_iff.mp h) readMultiSelect_ne_oversized
      | slider => exact absurd (map_eq_error_iff.mp h) readSlider_ne_oversized
      | form => exact absurd h readForm_ne_oversized
      | chart kind =>
        exact Or.inl ⟨kind, hhead, oversizedHeight_of_readChart (map_eq_error_iff.mp h)⟩
      | multipleChoice => exact absurd (map_eq_error_iff.mp h) readMultipleChoice_ne_oversized
      | shortAnswer => exact absurd (map_eq_error_iff.mp h) readShortAnswer_ne_oversized
      | quiz => exact Or.inr ⟨hhead, oversized_of_readQuiz (map_eq_error_iff.mp h)⟩

end Grammar

theorem keyword_of_holdsOversized {t : Text} (h : HoldsOversized t) {k : Keyword}
    (hk : (tokenize (trim t)).head? = some k.text) : k.isChart = true ∨ k = .quiz := by
  rcases h with ⟨kind, hchart, -⟩ | ⟨hquiz, -⟩
  · rw [hk] at hchart
    rw [Keyword.text_injective (Option.some.inj hchart)]
    exact Or.inl rfl
  · rw [hk] at hquiz
    exact Or.inr (Keyword.text_injective (Option.some.inj hquiz))

/-- A reading by position ends in a fault only where the block is refused. -/
theorem fault_cases {child : Text → Except ParseError Widget} {t : Text} {fault : Positions.Fault}
    (h : Positions.lift (Grammar.parseWith child t) = .error fault) :
    ∃ cause, fault = .refused cause ∧
      ∀ literal, cause = .oversized literal → HoldsOversized t := by
  obtain ⟨cause, hcause, rfl⟩ := mapError_eq_error_iff.mp h
  refine ⟨cause, rfl, ?_⟩
  rintro literal rfl
  exact Grammar.holdsOversized_of_parseWith hcause

/-- **The outcome of a block.** It is a widget without an error, or an error that is not empty. The
grammars look at no position that is out of range, neither in the block nor in the fields of a form.
Only an integer literal that is too long makes them fail in any other way than by refusing the block;
its report is always the same text, and it occurs only in charts and quizzes that hold such a
literal. -/
theorem outcome_of_parseBlock (t : Text) :
    ((∃ w, parseBlock t = ⟨true, some w, none⟩) ∨
        ∃ e, e ≠ [] ∧ parseBlock t = ⟨false, none, some e⟩) ∧
      (Positions.parse t = (Grammar.parse t).mapError .refused ∧
        Positions.parseLine t = (Grammar.parseLine t).mapError .refused) ∧
      (∀ fault, Positions.parse t = .error fault ∨ Positions.parseLine t = .error fault →
        ∃ cause, fault = .refused cause ∧
          ∀ literal, cause = .oversized literal → HoldsOversized t) ∧
      ∀ e, (parseBlock t).error = some e → "Failed to parse widget".toList <+: e →
        e = "Failed to parse widget: ValueError".toList ∧ HoldsOversized t ∧
          ∀ k : Keyword, (tokenize (trim t)).head? = some k.text →
            k.isChart = true ∨ k = .quiz := by
  refine ⟨?_, ⟨Positions.parse_eq t, Positions.parseLine_eq t⟩, ?_, ?_⟩
  · rw [parseBlock]
    cases Grammar.parse t with
    | ok w => exact Or.inl ⟨w, rfl⟩
    | error cause => exact Or.inr ⟨cause.report, cause.report_ne_nil, rfl⟩
  · intro fault h
    rw [Positions.parse_eq, Positions.parseLine_eq] at h
    rcases h with h | h
    · exact fault_cases h
    · exact fault_cases h
  · intro e he hbegins
    cases hparse : Grammar.parse t with
    | ok w =>
      rw [parseBlock, hparse] at he
      exact absurd he (by simp [ParseResult.ofOutcome])
    | error cause =>
      rw [parseBlock, hparse] at he
      obtain rfl : cause.report = e := Option.some.inj he
      obtain ⟨literal, rfl⟩ := ParseError.oversized_of_report hbegins
      have hholds := Grammar.holdsOversized_of_parseWith hparse
      exact ⟨rfl, hholds, fun k hk => keyword_of_holdsOversized hholds hk⟩

end Widgetry
