import Widgetry.Proofs.QuizLines
import Widgetry.Proofs.WrittenBlocks

/-!
# Quizzes that are written and read back

A quiz is read back from its written block (`parseBlock_quiz`). Each setting is read as it was
written (`readQuizSettings_quizSettings`), and the settings end where the questions begin, if the
line of the first question has no colon; colons in the other questions do no harm. From there on
each line is read as its question, whatever its number (`mapM_questionLines`).
-/

namespace Widgetry

open Text Outcome

namespace Writer

/-! ## What can be written -/

/-- The question can be read back from its written line. A written question has no place for its
answers but behind a placeholder. -/
structure WritableQuestion (q : Question) : Prop where
  scalars : ∀ t ∈ q.scalars, OneLine t
  items : ∀ ts ∈ q.lists, ∀ t ∈ ts, OneLine t ∧ '[' ∉ t ∧ ']' ∉ t
  points : (Text.ofNat q.points.natAbs).length ≤ maxIntegerDigits
  finished : q.streaming = none
  answers : ∀ w, q = .written w → w.placeholder = none → w.correctAnswers = none

/-- The quiz can be read back from its written block. -/
structure WritableQuiz (q : Quiz) : Prop where
  id : q.id.isSome = true
  texts : ∀ t ∈ (Widget.quiz q).scalars, OneLine t
  passingScore : ∀ n ∈ q.passingScore, (Text.ofNat n.natAbs).length ≤ maxIntegerDigits
  nonempty : q.questions ≠ []
  questions : ∀ question ∈ q.questions, WritableQuestion question
  colon : ∀ question ∈ q.questions.head?, ':' ∉ questionLine question

open Grammar

/-! ## Questions -/

/-- The line of the question is read as the question, whatever its number. -/
def QuestionReadsBack (q : Question) : Prop :=
  ∃ tokens, LineReadAs (questionLine q) (q.kind.text :: tokens) ∧
    ∀ number, readQuestion number q.kind.text tokens = .ok q

theorem lineReadAs_questionKind (kind : QuestionKind) : LineReadAs kind.text [kind.text] := by
  have hplain : kind.text.all (fun c => decide (Scan.IsPlain c ∧ isBlank c = false)) = true := by
    cases kind <;> decide
  have hword : ∀ c ∈ kind.text, Scan.IsPlain c ∧ isBlank c = false := by
    intro c hc
    exact of_decide_eq_true (List.all_eq_true.mp hplain c hc)
  have hne : kind.text ≠ [] := by cases kind <;> decide
  exact (readAs_word hne hword).lineReadAs fun h => (hword _ h).1.2.2.2 rfl

theorem readPoints_ofInt {points : Int}
    (h : (Text.ofNat points.natAbs).length ≤ maxIntegerDigits) (number : Int) :
    readPoints number (Text.ofInt points) = .ok points :=
  readPoints_eq_ok_iff.mpr (readInteger_ofInt h)

theorem readsBack_choiceQuestion {q : ChoiceQuestion} (h : WritableQuestion (.choice q)) :
    QuestionReadsBack (.choice q) := by
  obtain ⟨name, question, points, choices, answer, streaming⟩ := q
  obtain rfl : streaming = none := h.finished
  have hname : OneLine name := h.scalars name (by simp [Question.scalars])
  have hquestion : OneLine question := h.scalars question (by simp [Question.scalars])
  have hanswer : ∀ t ∈ answer, OneLine t :=
    fun t ht => h.scalars t (by simp [Question.scalars, Option.mem_def.mp ht])
  have hchoices := h.items choices (by simp [Question.lists])
  have hparse : ArrayLiteral.parse (array choices) = .ok choices :=
    ArrayLiteral.parse_array_of_quotable fun x hx => (hchoices x hx).1.toQuotable
  have hrel : List.Forall₂ (Option.Rel fun part token => LineReadAs part [token])
      [some (quoted name), some (quoted question), some (Text.ofInt points), some (array choices),
        answer.map quoted]
      [some name, some question, some (Text.ofInt points), some (array choices), answer] :=
    .cons (.some (lineReadAs_quoted hname)) (.cons (.some (lineReadAs_quoted hquestion))
      (.cons (.some (lineReadAs_ofInt points)) (.cons (.some (lineReadAs_array hchoices))
        (.cons (rel_lineReadAs_quoted hanswer) .nil))))
  refine ⟨_, lineReadAs_spaced (lineReadAs_questionKind .choice) hrel, fun number => ?_⟩
  refine readQuestion_eq_ok_iff.mpr (Or.inl ⟨_, rfl, readChoiceQuestion_eq_ok_iff.mpr
    ⟨name, question, _, _, answer.toList, points, choices, ?_, readPoints_ofInt h.points number,
      hparse, ?_⟩, rfl⟩)
  · cases answer <;> rfl
  · cases answer <;> rfl

theorem readsBack_writtenQuestion {q : WrittenQuestion} (h : WritableQuestion (.written q)) :
    QuestionReadsBack (.written q) := by
  obtain ⟨name, question, points, placeholder, answers, streaming⟩ := q
  obtain rfl : streaming = none := h.finished
  have hname : OneLine name := h.scalars name (by simp [Question.scalars])
  have hquestion : OneLine question := h.scalars question (by simp [Question.scalars])
  have hplaceholder : ∀ t ∈ placeholder, OneLine t :=
    fun t ht => h.scalars t (by simp [Question.scalars, Option.mem_def.mp ht])
  have hanswers : ∀ xs ∈ answers, ∀ x ∈ xs, OneLine x ∧ '[' ∉ x ∧ ']' ∉ x :=
    fun xs hxs => h.items xs (by simpa [Question.lists] using hxs)
  have hparse : AnswersOf (answers.map array) none answers := by
    cases answers with
    | none => exact Or.inl ⟨rfl, rfl, rfl⟩
    | some xs =>
      have hxs : ArrayLiteral.parse (array xs) = .ok xs :=
        ArrayLiteral.parse_array_of_quotable fun x hx => (hanswers xs rfl x hx).1.toQuotable
      exact Or.inr (Or.inl ⟨array xs, xs, rfl, rfl, hxs, rfl, rfl⟩)
  have hrel : List.Forall₂ (Option.Rel fun part token => LineReadAs part [token])
      [some (quoted name), some (quoted question), some (Text.ofInt points),
        placeholder.map quoted, answers.map array]
      [some name, some question, some (Text.ofInt points), placeholder, answers.map array] :=
    .cons (.some (lineReadAs_quoted hname)) (.cons (.some (lineReadAs_quoted hquestion))
      (.cons (.some (lineReadAs_ofInt points)) (.cons (rel_lineReadAs_quoted hplaceholder)
        (.cons (rel_map fun xs hxs => lineReadAs_array (hanswers xs hxs)) .nil))))
  -- the answers are set only behind a placeholder, so they keep their position
  have hleading : Leading [placeholder, answers.map array] := by
    cases placeholder with
    | none =>
      obtain rfl : answers = none := h.answers _ rfl rfl
      decide
    | some t => cases answers <;> simp [Leading]
  refine ⟨_, lineReadAs_spaced (lineReadAs_questionKind .written) hrel, fun number => ?_⟩
  refine readQuestion_eq_ok_iff.mpr (Or.inr ⟨_, rfl, readWrittenQuestion_eq_ok_iff.mpr
    ⟨name, question, _, _, points, none, answers, rfl, readPoints_ofInt h.points number, ?_, ?_⟩,
      rfl⟩)
  · rw [getElem?_filterMap hleading]
    exact hparse
  · rw [getElem?_filterMap hleading]
    simp

theorem questionReadsBack {q : Question} (h : WritableQuestion q) : QuestionReadsBack q := by
  cases q with
  | choice q => exact readsBack_choiceQuestion h
  | written q => exact readsBack_writtenQuestion h

/-- **Lines of questions are read as the questions.** -/
theorem mapM_questionLines {questions : List Question} (h : ∀ q ∈ questions, QuestionReadsBack q)
    (n : Nat) :
    (((questions.map questionLine).zipIdx n).filterMap fun x => questionLine? x.1 x.2).mapM
      (fun l => readQuestion l.number l.word l.parts) = .ok questions := by
  induction questions generalizing n with
  | nil => rfl
  | cons q questions ih =>
    obtain ⟨tokens, hline, hread⟩ := h q List.mem_cons_self
    have hquestion : questionLine? (questionLine q) n = some ⟨n, q.kind.text, tokens⟩ := by
      rw [questionLine?, trim_eq_self hline.scalar.trimmed, hline.tokens]
    have hrest := ih (fun q hq => h q (List.mem_cons_of_mem _ hq)) (n + 1)
    simp only [List.map_cons, List.zipIdx_cons, List.filterMap_cons, hquestion, List.mapM_cons]
    exact bind_eq_ok_iff.mpr ⟨q, hread n, bind_eq_ok_iff.mpr ⟨questions, hrest, rfl⟩⟩

/-! ## Settings -/

theorem set_showScore (s : QuizSettings) (b : Bool) :
    s.set (lower "showScore".toList) (flag b) = .ok ⟨b, s.showProgress, s.passingScore⟩ := by
  have hkey : QuizKey.ofText? (lower "showScore".toList) = some .showScore := by decide +kernel
  simp only [QuizSettings.set, hkey, isTrue_flag]

theorem set_showProgress (s : QuizSettings) (b : Bool) :
    s.set (lower "showProgress".toList) (flag b) = .ok ⟨s.showScore, b, s.passingScore⟩ := by
  have hkey : QuizKey.ofText? (lower "showProgress".toList) = some .showProgress := by
    decide +kernel
  simp only [QuizSettings.set, hkey, isTrue_flag]

theorem set_passingScore (s : QuizSettings) {n : Int}
    (h : (Text.ofNat n.natAbs).length ≤ maxIntegerDigits) :
    s.set (lower "passingScore".toList) (Text.ofInt n) =
      .ok ⟨s.showScore, s.showProgress, n⟩ := by
  have hkey : QuizKey.ofText? (lower "passingScore".toList) = some .passingScore := by
    decide +kernel
  simp only [QuizSettings.set, hkey, readInteger_ofInt h]
  rfl

theorem readQuizSettings_setting {s s' : QuizSettings} {key : String} {value : Text}
    (hkey : Scalar key.toList ∧ ':' ∉ key.toList) (hvalue : Trimmed value)
    (hset : s.set (lower key.toList) value = .ok s') (read : Nat) (rest : List Text) :
    readQuizSettings s read (setting key value :: rest) = readQuizSettings s' (read + 1) rest :=
  readQuizSettings_of_setting (readSetting?_setting hkey hvalue) hset

/-- **The settings are read as they were written**, and the lines below them with these settings. -/
theorem readQuizSettings_quizSettings {q : Quiz}
    (h : ∀ n ∈ q.passingScore, (Text.ofNat n.natAbs).length ≤ maxIntegerDigits)
    (rest : List Text) :
    readQuizSettings .unstated 0 (quizSettings q ++ rest) =
      readQuizSettings ⟨q.showScore, q.showProgress, q.passingScore⟩ (quizSettings q).length
        rest := by
  obtain ⟨id, title, questions, showScore, showProgress, passingScore⟩ := q
  have hflags : ∀ ls, readQuizSettings .unstated 0
      (setting "showScore" (flag showScore) :: setting "showProgress" (flag showProgress) :: ls) =
        readQuizSettings ⟨showScore, showProgress, none⟩ 2 ls := by
    intro ls
    rw [readQuizSettings_setting (by decide) (trimmed_flag _) (set_showScore _ _),
      readQuizSettings_setting (by decide) (trimmed_flag _) (set_showProgress _ _)]
    rfl
  cases passingScore with
  | none => exact hflags rest
  | some n =>
    have hset := set_passingScore ⟨showScore, showProgress, none⟩ (h n rfl)
    refine (hflags _).trans ?_
    exact readQuizSettings_setting (by decide) (trimmed_ofInt n) hset 2 rest

/-! ## Quizzes -/

theorem not_mem_quizSettings (q : Quiz) : ∀ l ∈ quizSettings q, '\n' ∉ l := by
  have hflag : ∀ b, '\n' ∉ flag b := by decide
  intro l hl
  rcases List.mem_append.mp hl with hl | hl
  · rcases List.mem_cons.mp hl with rfl | hl
    · exact not_mem_setting (by decide) (hflag _)
    · obtain rfl := List.mem_singleton.mp hl
      exact not_mem_setting (by decide) (hflag _)
  · obtain ⟨n, -, rfl⟩ := Option.map_eq_some_iff.mp (Option.mem_toList.mp hl)
    exact not_mem_setting (by decide) (not_mem_ofInt (by decide) (by decide) n)

/-- The first line of a quiz. -/
theorem lineReadAs_quiz {q : Quiz} {name : Text} (hid : q.id = some name) (hname : OneLine name)
    (htitle : OneLine q.title) :
    LineReadAs (line (.quiz q)) (Keyword.quiz.text :: [some name, some q.title].filterMap id) := by
  apply lineReadAs_spaced (lineReadAs_keyword .quiz)
  rw [parts, hid]
  exact .cons (.some (lineReadAs_quoted hname)) (.cons (.some (lineReadAs_quoted htitle)) .nil)

theorem readQuiz_written {q : Quiz} (h : WritableQuiz q) {source : Text} {name : Text}
    (hid : q.id = some name)
    (hlines : lines source = (line (.quiz q), quizSettings q ++ q.questions.map questionLine))
    (hfirst : LineReadAs (line (.quiz q)) (Keyword.quiz.text :: [name, q.title])) :
    readQuiz source = .ok q := by
  have hreads : ∀ question ∈ q.questions, QuestionReadsBack question :=
    fun question hquestion => questionReadsBack (h.questions question hquestion)
  -- the line of the first question is the first one that is no setting
  have hsettings : readQuizSettings .unstated 0 (lines source).2 =
      .ok (⟨q.showScore, q.showProgress, q.passingScore⟩, (quizSettings q).length) := by
    rw [hlines, readQuizSettings_quizSettings h.passingScore]
    obtain ⟨question, others, hquestions⟩ := List.exists_cons_of_ne_nil h.nonempty
    have hcolon : ':' ∉ questionLine question := h.colon question (by rw [hquestions]; rfl)
    obtain ⟨tokens, hline, -⟩ := hreads question (by rw [hquestions]; exact List.mem_cons_self)
    rw [hquestions, List.map_cons]
    apply readQuizSettings_of_ends
    simp [endsSettings, trim_eq_self hline.scalar.trimmed, hline.scalar.ne_nil, hcolon]
  refine readQuiz_eq_ok_iff.mpr ⟨name, q.title, [], _, _, q.questions, ?_, hsettings, ?_,
    h.nonempty, ?_⟩
  · rw [hlines, hfirst.tokens]
    rfl
  · rw [questionLines, hlines, List.drop_left]
    exact mapM_questionLines hreads _
  · simp [QuizSettings.applyTo, emptyQuiz, ← hid]

/-- **A written quiz is read back.** -/
theorem parseBlock_quiz {q : Quiz} (h : WritableQuiz q) :
    parseBlock (Writer.quiz q) = ⟨true, some (.quiz q), none⟩ := by
  obtain ⟨name, hid⟩ := Option.isSome_iff_exists.mp h.id
  have hname : OneLine name := h.texts name (by simp [Widget.scalars, hid])
  have htitle : OneLine q.title := h.texts q.title (by simp [Widget.scalars])
  have hquestion : ∀ l ∈ q.questions.map questionLine, Scalar l ∧ '\n' ∉ l := by
    intro l hl
    obtain ⟨question, hmem, rfl⟩ := List.mem_map.mp hl
    obtain ⟨tokens, hline, -⟩ := questionReadsBack (h.questions question hmem)
    exact ⟨hline.scalar, hline.oneLine⟩
  have hfirst := lineReadAs_quiz hid hname htitle
  obtain ⟨⟨_, hparse⟩, hlines⟩ :=
    parse_unlines hfirst (not_mem_quizSettings q) hquestion (by simpa using h.nonempty)
  apply Streaming.parseBlock_eq
  refine hparse.trans ?_
  exact map_eq_ok_iff.mpr ⟨q, readQuiz_written h hid hlines hfirst, rfl⟩

/-- A quiz with a passing score and two questions, the second of which has colons and brackets in
its texts and a list of answers. -/
theorem parseBlock_quiz_two_questions :
    let q : Quiz := ⟨some "q 1".toList, "Half: time".toList,
      [.choice ⟨"a".toList, "One?".toList, -2, ["x y".toList, "z".toList], some "z".toList, none⟩,
        .written ⟨"b".toList, "Is 1:2 [half]?".toList, 3, some "its name".toList,
          some ["a: b".toList, "c".toList], none⟩], false, true, some 70⟩
    Writer.quiz q = "quiz \"q 1\" \"Half: time\"\nshowScore: false\nshowProgress: true\n".toList ++
        "passingScore: 70\nmcq \"a\" \"One?\" -2 [\"x y\" \"z\"] \"z\"\n".toList ++
        "short-answer \"b\" \"Is 1:2 [half]?\" 3 \"its name\" [\"a: b\" \"c\"]".toList ∧
      WritableQuiz q ∧ parseBlock (Writer.quiz q) = ⟨true, some (.quiz q), none⟩ := by
  intro q
  have hquestions : ∀ question ∈ q.questions, WritableQuestion question := by
    intro question hquestion
    rcases List.mem_cons.mp hquestion with rfl | hquestion
    · exact ⟨by decide, by decide, by decide, rfl, fun _ h => Question.noConfusion h⟩
    · obtain rfl := List.mem_singleton.mp hquestion
      refine ⟨by decide, by decide, by decide, rfl, ?_⟩
      rintro _ ⟨rfl⟩ hnone
      exact absurd hnone (by simp)
  have hq : WritableQuiz q :=
    ⟨rfl, by decide, by decide, by simp [q], hquestions, by decide⟩
  exact ⟨by decide +kernel, hq, parseBlock_quiz hq⟩

end Writer

end Widgetry
