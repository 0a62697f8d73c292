import Widgetry.Proofs.BlockGrammar
import Widgetry.Proofs.Failure
import Widgetry.Widget.Parts

/-!
# Quizzes that have arrived

The line of a question has two readers: the grammar refuses it if a part is missing, and the preview
fills the part in. On a line that the grammar accepts there is nothing to fill in, and if nothing is
open at its end either, both readers see the same tokens. So they read the same question
(`previewQuestion_of_readQuestion`), except that the preview marks it as one that has arrived, and
the preview of a quiz that the grammar accepts shows that quiz (`preview_of_readQuiz`).
-/

namespace Widgetry

/-- The question with the mark that it is not arriving any more. -/
def Question.arrived : Question → Question
  | choice q => choice { q with streaming := some false }
  | written q => written { q with streaming := some false }

/-- The quiz as a preview shows it when all its questions have arrived. More may still come. -/
def Quiz.shown (q : Quiz) : QuizPreview where
  id := q.id
  title := some q.title
  questions := q.questions.map Question.arrived
  showScore := some q.showScore
  showProgress := some q.showProgress
  passingScore := q.passingScore
  streaming := some true

namespace Streaming

open Text Outcome Grammar

/-! ## One question -/

theorem previewPoints_of_readPoints {number points : Int} {token : Text}
    (h : readPoints number token = .ok points) : previewPoints (some token) = .ok points := by
  rw [previewPoints, readPoints_eq_ok_iff.mp h]
  rfl

/-- The choices are an array, so no placeholder is shown. -/
theorem previewChoiceQuestion_of_read {number : Int} {parts : List Text} {q : ChoiceQuestion}
    (h : readChoiceQuestion number parts = .ok q) (index : Int) (line : Text) :
    previewPoints parts[2]? = .ok q.points ∧
      previewChoiceQuestion index line parts q.points = { q with streaming := some false } := by
  obtain ⟨id, question, token, array, rest, points, choices, rfl, hpoints, hchoices, rfl⟩ :=
    readChoiceQuestion_eq_ok_iff.mp h
  have harray : ArrayLiteral.parse? array = some choices := by
    rw [ArrayLiteral.parse?, hchoices]
    rfl
  refine ⟨previewPoints_of_readPoints hpoints, ?_⟩
  simp [previewChoiceQuestion, harray]

/-- The preview makes the same answers of a part: an array of them, or a single one as a list. -/
theorem bind_previewAnswers {part single : Option Text} {several : Option (List Text)}
    (h : AnswersOf part single several) :
    part.bind previewAnswers = (several <|> single.map ([·])) := by
  rcases h with ⟨rfl, rfl, rfl⟩ | ⟨token, xs, rfl, hopens, hxs, rfl, rfl⟩ |
    ⟨token, rfl, hopens, rfl, rfl⟩
  · rfl
  · rw [Option.bind_some, previewAnswers, if_pos hopens, ArrayLiteral.parse?, hxs]
    rfl
  · rw [Option.bind_some, previewAnswers, if_neg (by simp [hopens])]
    rfl

theorem previewWrittenQuestion_of_read {number : Int} {parts : List Text} {q : WrittenQuestion}
    (h : readWrittenQuestion number parts = .ok q) (index : Int) :
    previewPoints parts[2]? = .ok q.points ∧
      previewWrittenQuestion index parts q.points = { q with streaming := some false } := by
  obtain ⟨id, question, token, rest, points, single, several, rfl, hpoints, hanswers, rfl⟩ :=
    readWrittenQuestion_eq_ok_iff.mp h
  refine ⟨previewPoints_of_readPoints hpoints, ?_⟩
  rw [← bind_previewAnswers hanswers]
  simp [previewWrittenQuestion]

/-- **A question that the grammar accepts is shown as it is read**, whatever number the preview gives
to its line. -/
theorem previewQuestion_of_readQuestion {number index : Int} {line word : Text}
    {parts : List Text} {q : Question} (htokens : tokenize (complete line) = word :: parts)
    (h : readQuestion number word parts = .ok q) :
    previewQuestion index line = .ok (some q.arrived) := by
  rcases readQuestion_eq_ok_iff.mp h with ⟨w, rfl, hw, rfl⟩ | ⟨w, rfl, hw, rfl⟩
  · obtain ⟨hpoints, hshown⟩ := previewChoiceQuestion_of_read hw index line
    simp only [previewQuestion, htokens, QuestionKind.ofText?_text]
    refine bind_eq_ok_iff.mpr ⟨w.points, hpoints, ?_⟩
    rw [hshown]
    rfl
  · obtain ⟨hpoints, hshown⟩ := previewWrittenQuestion_of_read hw index
    simp only [previewQuestion, htokens, QuestionKind.ofText?_text]
    refine bind_eq_ok_iff.mpr ⟨w.points, hpoints, ?_⟩
    rw [hshown]
    rfl

/-! ## All questions -/

/-- **The questions that the grammar reads are all that the preview shows.** The two number the
lines differently, and lines without tokens are no questions for either. -/
theorem previewQuestions_of_mapM {ls : List Text} {n m : Nat} {questions : List Question}
    (hcomplete : ∀ line ∈ ls, complete (trim line) = trim line)
    (h : ((ls.zipIdx n).filterMap fun x => questionLine? x.1 x.2).mapM
      (fun l => readQuestion l.number l.word l.parts) = .ok questions) :
    ∃ shown, (ls.zipIdx m).mapM (fun x => previewQuestion x.2 (trim x.1)) = .ok shown ∧
      shown.filterMap id = questions.map Question.arrived := by
  induction ls generalizing n m questions with
  | nil =>
    have hnil : [] = questions := pure_eq_ok_iff.mp h
    subst hnil
    exact ⟨[], rfl, rfl⟩
  | cons line ls ih =>
    have hline := hcomplete line List.mem_cons_self
    have hrest : ∀ line ∈ ls, complete (trim line) = trim line :=
      fun l hl => hcomplete l (List.mem_cons_of_mem line hl)
    rw [List.zipIdx_cons] at h
    simp only [List.zipIdx_cons, List.mapM_cons]
    cases htokens : tokenize (trim line) with
    | nil =>
      have hquestion : questionLine? line n = none := by simp [questionLine?, htokens]
      have hskip : previewQuestion m (trim line) = .ok none := by
        simp [previewQuestion, hline, htokens]
      simp only [List.filterMap_cons, hquestion] at h
      obtain ⟨shown, hshown, hquestions⟩ := ih (m := m + 1) hrest h
      refine ⟨none :: shown, ?_, hquestions⟩
      exact bind_eq_ok_iff.mpr ⟨none, hskip, bind_eq_ok_iff.mpr ⟨shown, hshown, rfl⟩⟩
    | cons word parts =>
      have hquestion : questionLine? line n = some ⟨n, word, parts⟩ := by
        simp [questionLine?, htokens]
      simp only [List.filterMap_cons, hquestion, List.mapM_cons] at h
      obtain ⟨question, hread, h⟩ := bind_eq_ok_iff.mp h
      obtain ⟨others, hothers, h⟩ := bind_eq_ok_iff.mp h
      have htokens' : tokenize (complete (trim line)) = word :: parts := by rw [hline, htokens]
      have hshow : previewQuestion m (trim line) = .ok (some question.arrived) :=
        previewQuestion_of_readQuestion htokens' hread
      obtain ⟨shown, hshown, hquestions⟩ := ih (m := m + 1) hrest hothers
      refine ⟨some question.arrived :: shown, ?_, ?_⟩
      · exact bind_eq_ok_iff.mpr ⟨_, hshow, bind_eq_ok_iff.mpr ⟨shown, hshown, rfl⟩⟩
      · rw [← pure_eq_ok_iff.mp h, List.map_cons, ← hquestions]
        rfl

/-- The grammar leaves the mark of a question out. -/
theorem streaming_of_readQuestion {number : Int} {word : Text} {parts : List Text} {q : Question}
    (h : readQuestion number word parts = .ok q) : q.streaming = none := by
  rcases readQuestion_eq_ok_iff.mp h with ⟨w, -, hw, rfl⟩ | ⟨w, -, hw, rfl⟩
  · obtain ⟨id, question, token, array, rest, points, choices, -, -, -, rfl⟩ :=
      readChoiceQuestion_eq_ok_iff.mp hw
    rfl
  · obtain ⟨id, question, token, rest, points, single, several, -, -, -, rfl⟩ :=
      readWrittenQuestion_eq_ok_iff.mp hw
    rfl

/-! ## The quiz -/

/-- Both readers start from a quiz that shows score and progress, and read the same settings. -/
theorem previewQuiz_of_readQuiz {source : Text} {q : Quiz} (h : readQuiz source = .ok q)
    (hcomplete : ∀ line ∈ (body source).drop (settingsLength source),
      complete (trim line) = trim line) :
    previewQuiz source = .ok q.shown := by
  obtain ⟨id, title, rest, settings, read, questions, hheader, hsettings, hquestions, -, rfl⟩ :=
    readQuiz_eq_ok_iff.mp h
  have hread : read = settingsLength source := read_eq_settingsLength hsettings
  obtain ⟨shown, hshown, hsame⟩ :=
    previewQuestions_of_mapM (m := read + 1) (hread ▸ hcomplete) hquestions
  refine bind_eq_ok_iff.mpr ⟨(settings, read), hsettings, ?_⟩
  refine bind_eq_ok_iff.mpr ⟨shown, hshown, ?_⟩
  rw [pure_eq_ok_iff]
  change applySettings settings ⟨some ((tokenize (lines source).1).tail[0]?.getD pendingId),
    some ((tokenize (lines source).1).tail[1]?.getD pendingTitle), shown.filterMap _, some true,
    some true, none, some true⟩ = _
  rw [hheader, hsame]
  cases settings with
  | mk showScore showProgress passingScore => cases showScore <;> cases showProgress <;> rfl

/-- **A quiz that the grammar accepts is shown as it is read.** If nothing is open at the end of a
line below its settings, its preview has the id, the title, the settings and the questions of the
quiz, in order and part by part; the questions differ in their mark alone, which a finished quiz
leaves out and the preview sets to false. No question is awaited, and the other flags stay. -/
theorem preview_of_readQuiz {source : Text} {q : Quiz} (h : readQuiz source = .ok q)
    (hcomplete : ∀ line ∈ (body source).drop (settingsLength source),
      complete (trim line) = trim line) (pending : Pending) :
    (∀ question ∈ q.questions, question.streaming = none) ∧
      preview Keyword.quiz.text source pending = .ok (unfinished Keyword.quiz.text (.quiz q.shown)
        { pending with awaitingQuestions := some false }) := by
  obtain ⟨id, title, rest, settings, read, questions, -, -, hquestions, hne, hq⟩ :=
    readQuiz_eq_ok_iff.mp h
  constructor
  · intro question hmem
    rw [hq] at hmem
    obtain ⟨l, -, hl⟩ := exists_of_mem_of_mapM_eq_ok hquestions hmem
    exact streaming_of_readQuestion hl
  · have hshown : q.shown.questions ≠ [] := by
      rw [hq]
      simpa [Quiz.shown] using hne
    rw [preview, Keyword.ofText?_text]
    refine map_eq_ok_iff.mpr ⟨q.shown, previewQuiz_of_readQuiz h hcomplete, ?_⟩
    simp [hshown]

/-- A quiz with a line without tokens, an empty array and a single answer. -/
theorem preview_of_readQuiz_two_questions :
    let t := "quiz q T\nshowScore: no\n\n\"\"\nmcq a One 0 []\nshort-answer b Two 2 hint two".toList
    ∃ q, readQuiz t = .ok q ∧
      (∀ line ∈ (body t).drop (settingsLength t), complete (trim line) = trim line) ∧
      q.questions.map Question.id = ["a".toList, "b".toList] ∧
      (∀ question ∈ q.questions, question.streaming = none) ∧
      preview Keyword.quiz.text t .unstated = .ok (unfinished Keyword.quiz.text (.quiz q.shown)
        { Pending.unstated with awaitingQuestions := some false }) := by
  intro t
  let q : Quiz := ⟨"q".toList, "T".toList,
    [.choice ⟨"a".toList, "One".toList, 0, [], none, none⟩,
      .written ⟨"b".toList, "Two".toList, 2, "hint".toList, some ["two".toList], none⟩],
    false, true, none⟩
  have hread : readQuiz t = .ok q := by decide +kernel
  have hcomplete : ∀ line ∈ (body t).drop (settingsLength t),
      complete (trim line) = trim line := by decide +kernel
  exact ⟨q, hread, hcomplete, rfl, preview_of_readQuiz hread hcomplete .unstated⟩

end Streaming

end Widgetry
