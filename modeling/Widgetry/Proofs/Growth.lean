import Widgetry.Proofs.BlockGrammar
import Widgetry.Proofs.Failure
import Widgetry.Proofs.Lines

/-!
# What is shown while lines arrive

Lines that arrive later stand behind the lines that are there. The settings of a quiz end at its
first line that is neither blank nor has a colon, so later lines can only be settings as long as
there is no question yet, and what is read below the settings is read again below them, from the
same lines with the same numbers (`questionRows_append_line`). The fields of a form are read line by
line. So the questions and fields that have been shown stay, and others come behind them
(`shown_append_line`).
-/

namespace Widgetry.Streaming

open Text Outcome Grammar

/-! ## Lists that are read in part -/

/-- If a list is read, its front is read as well, and gives the front of the values. -/
theorem mapM_eq_ok_of_prefix {ε α β : Type} {f : α → Except ε β} {xs ys : List α} {bs : List β}
    (hpre : xs <+: ys) (h : ys.mapM f = .ok bs) : ∃ as, xs.mapM f = .ok as ∧ as <+: bs := by
  obtain ⟨more, rfl⟩ := hpre
  rw [List.mapM_append] at h
  obtain ⟨as, has, h⟩ := bind_eq_ok_iff.mp h
  obtain ⟨cs, -, h⟩ := bind_eq_ok_iff.mp h
  rw [← pure_eq_ok_iff.mp h]
  exact ⟨as, has, List.prefix_append as cs⟩

/-! ## Quizzes -/

/-- The lines below the settings of a quiz, each with the number that it has among the lines after
the first one. -/
def questionRows (source : Text) : List (Text × Nat) :=
  ((body source).drop (settingsLength source)).zipIdx (settingsLength source + 1)

theorem body_append_line (p r : Text) : body (p ++ '\n' :: r) = body p ++ pieces (· == '\n') r := by
  rw [body, lines, cut_append_separator (by simp)]
  rfl

theorem first_append_line (p r : Text) : (lines (p ++ '\n' :: r)).1 = (lines p).1 := by
  rw [lines, cut_append_separator (by simp)]
  rfl

/-- **Later lines are settings only if there is no question yet**, so the question lines stay where
they are. -/
theorem questionRows_append_line (p r : Text) :
    questionRows p <+: questionRows (p ++ '\n' :: r) := by
  have hlength : settingsLength (p ++ '\n' :: r) =
      (body p ++ pieces (· == '\n') r).findIdx endsSettings := by
    rw [settingsLength, body_append_line]
  rw [List.findIdx_append] at hlength
  by_cases hends : (body p).findIdx endsSettings < (body p).length
  · rw [if_pos hends] at hlength
    rw [questionRows, questionRows, hlength, body_append_line, settingsLength,
      List.drop_append_of_le_length hends.le, List.zipIdx_append]
    exact List.prefix_append _ _
  · -- all lines that are there are settings
    have hdrop : (body p).drop (settingsLength p) = [] :=
      List.drop_eq_nil_iff.mpr (not_lt.mp hends)
    rw [questionRows, hdrop]
    exact List.nil_prefix

theorem mem_settings_append_line {p line : Text} (r : Text)
    (h : line ∈ (body p).take (settingsLength p)) :
    line ∈ (body (p ++ '\n' :: r)).take (settingsLength (p ++ '\n' :: r)) := by
  have hle : settingsLength p ≤ settingsLength (p ++ '\n' :: r) := by
    rw [settingsLength, settingsLength, body_append_line, List.findIdx_append]
    split_ifs with hends
    · exact le_rfl
    · exact List.findIdx_le_length.trans (Nat.le_add_left _ _)
  have hlength : settingsLength p ≤ (body p).length := List.findIdx_le_length
  have htake : (body p).take (settingsLength p) =
      (body (p ++ '\n' :: r)).take (settingsLength p) := by
    rw [body_append_line, List.take_append_of_le_length hlength]
  rw [htake] at h
  exact (List.take_prefix_take_left hle).subset h

/-- Settings that are read with more lines behind them are read without these as well. -/
theorem exists_readQuizSettings_of_append_line {p r : Text} {s : QuizSettings} {read : Nat}
    (h : readQuizSettings .unstated 0 (body (p ++ '\n' :: r)) = .ok (s, read)) :
    ∃ s', readQuizSettings .unstated 0 (body p) = .ok (s', settingsLength p) := by
  cases hshort : readQuizSettings .unstated 0 (body p) with
  | ok x =>
    obtain ⟨s', read'⟩ := x
    exact ⟨s', by rw [read_eq_settingsLength hshort]⟩
  | error e =>
    obtain ⟨line, hline, hlong⟩ := exists_readQuizSettings_eq_error_iff.mp ⟨e, hshort⟩
    have herror : ∃ e, readQuizSettings .unstated 0 (body (p ++ '\n' :: r)) = .error e :=
      exists_readQuizSettings_eq_error_iff.mpr ⟨line, mem_settings_append_line r hline, hlong⟩
    obtain ⟨e', he'⟩ := herror
    exact absurd (h.symm.trans he') (by simp)

/-- The questions of a preview are read from the lines below the settings. -/
theorem questions_of_previewQuiz {source : Text} {q : QuizPreview}
    (h : previewQuiz source = .ok q) :
    ∃ s questions, readQuizSettings .unstated 0 (body source) = .ok (s, settingsLength source) ∧
      (questionRows source).mapM (fun x => previewQuestion x.2 (trim x.1)) = .ok questions ∧
      q.questions = questions.filterMap id := by
  obtain ⟨⟨s, read⟩, hsettings, h⟩ := bind_eq_ok_iff.mp h
  obtain rfl := read_eq_settingsLength hsettings
  obtain ⟨questions, hquestions, h⟩ := bind_eq_ok_iff.mp h
  rw [← pure_eq_ok_iff.mp h]
  exact ⟨s, questions, hsettings, hquestions, rfl⟩

theorem exists_previewQuiz {source : Text} {s : QuizSettings} {questions : List (Option Question)}
    (hsettings : readQuizSettings .unstated 0 (body source) = .ok (s, settingsLength source))
    (hquestions : (questionRows source).mapM (fun x => previewQuestion x.2 (trim x.1)) =
      .ok questions) :
    ∃ q, previewQuiz source = .ok q ∧ q.questions = questions.filterMap id :=
  ⟨_, bind_eq_ok_iff.mpr ⟨(s, settingsLength source), hsettings,
    bind_eq_ok_iff.mpr ⟨questions, hquestions, rfl⟩⟩, rfl⟩

/-- **The questions of a preview stay when lines arrive.** -/
theorem previewQuiz_append_line {p r : Text} {q' : QuizPreview}
    (h : previewQuiz (p ++ '\n' :: r) = .ok q') :
    ∃ q, previewQuiz p = .ok q ∧ q.questions <+: q'.questions := by
  obtain ⟨s', questions', hsettings', hquestions', hq'⟩ := questions_of_previewQuiz h
  obtain ⟨s, hsettings⟩ := exists_readQuizSettings_of_append_line hsettings'
  obtain ⟨questions, hquestions, hpre⟩ :=
    mapM_eq_ok_of_prefix (questionRows_append_line p r) hquestions'
  obtain ⟨q, hq, hquestions⟩ := exists_previewQuiz hsettings hquestions
  refine ⟨q, hq, ?_⟩
  rw [hquestions, hq']
  exact hpre.filterMap id

/-! ## Forms -/

theorem previewForm_append_line (p r : Text) :
    (previewForm p).fields <+: (previewForm (p ++ '\n' :: r)).fields := by
  have hbody : (lines (p ++ '\n' :: r)).2 = (lines p).2 ++ pieces (· == '\n') r :=
    body_append_line p r
  simp only [previewForm, hbody, List.filterMap_append]
  exact List.prefix_append _ _

/-- A form that has been read keeps its id, its label and its fields. -/
theorem readForm_append_line {child : Text → Except ParseError Widget} {p : Text} {w : Widget}
    (h : readForm child p = .ok w) (r : Text) :
    ∃ id submitLabel fields fields', w = .form id submitLabel fields ∧
      readForm child (p ++ '\n' :: r) = .ok (.form id submitLabel fields') ∧
      fields <+: fields' := by
  obtain ⟨id, rest, hheader, rfl⟩ := readForm_eq_ok_iff.mp h
  have hbody : (lines (p ++ '\n' :: r)).2 = (lines p).2 ++ pieces (· == '\n') r :=
    body_append_line p r
  refine ⟨id, rest[0]?, _, _, rfl, readForm_eq_ok_iff.mpr ⟨id, rest, ?_, rfl⟩, ?_⟩
  · rw [first_append_line, hheader]
  · rw [hbody, List.filterMap_append]
    exact List.prefix_append _ _

/-! ## All that is shown -/

/-- **What has been shown for finished lines stays.** If more lines arrive behind a quiz that can
still be shown, it could be shown before them, with questions that the longer one begins with. Forms
are always shown, and the fields of the longer one begin with those of the shorter; and a form that
has been read without a preview is read with the same id and label, and its fields come first. -/
theorem shown_append_line (p r : Text) (pending : Pending) :
    (∀ long, preview Keyword.quiz.text (p ++ '\n' :: r) pending = .ok long →
      ∃ short q q', preview Keyword.quiz.text p pending = .ok short ∧
        short.widget = some (.quiz q) ∧ long.widget = some (.quiz q') ∧
        q.questions <+: q'.questions) ∧
    (∃ short long f f', preview Keyword.form.text p pending = .ok short ∧
      preview Keyword.form.text (p ++ '\n' :: r) pending = .ok long ∧
      short.widget = some (.form f) ∧ long.widget = some (.form f') ∧ f.fields <+: f'.fields) ∧
    ∀ child w, readForm child p = .ok w →
      ∃ id submitLabel fields fields', w = .form id submitLabel fields ∧
        readForm child (p ++ '\n' :: r) = .ok (.form id submitLabel fields') ∧
        fields <+: fields' := by
  refine ⟨?_, ?_, fun child w h => readForm_append_line h r⟩
  · intro long hlong
    rw [preview, Keyword.ofText?_text] at hlong ⊢
    obtain ⟨q', hq', rfl⟩ := map_eq_ok_iff.mp hlong
    obtain ⟨q, hq, hpre⟩ := previewQuiz_append_line hq'
    exact ⟨_, q, q', map_eq_ok_iff.mpr ⟨q, hq, rfl⟩, rfl, rfl, hpre⟩
  · simp only [preview, Keyword.ofText?_text]
    exact ⟨_, _, _, _, rfl, rfl, rfl, rfl, previewForm_append_line p r⟩

/-- A quiz whose second question arrives, and a form whose second field does. -/
theorem shown_append_line_two_lines :
    (∃ long short q q',
      preview Keyword.quiz.text ("quiz q T\n\nmcq a One 1 [x".toList ++ '\n' ::
        "mcq b A:B 2 [y]".toList) .unstated = .ok long ∧
      preview Keyword.quiz.text "quiz q T\n\nmcq a One 1 [x".toList .unstated = .ok short ∧
      short.widget = some (.quiz q) ∧ long.widget = some (.quiz q') ∧
      q.questions <+: q'.questions) ∧
    ∃ w id submitLabel fields fields',
      readForm parseLine "form f\n  text-input a".toList = .ok w ∧
      w = .form id submitLabel fields ∧
      readForm parseLine ("form f\n  text-input a".toList ++ '\n' :: "  form g".toList) =
        .ok (.form id submitLabel fields') ∧ fields <+: fields' := by
  obtain ⟨hquiz, -, -⟩ := shown_append_line "quiz q T\n\nmcq a One 1 [x".toList
    "mcq b A:B 2 [y]".toList .unstated
  obtain ⟨-, -, hform⟩ :=
    shown_append_line "form f\n  text-input a".toList "  form g".toList .unstated
  obtain ⟨long, hlong⟩ : ∃ long, preview Keyword.quiz.text
      ("quiz q T\n\nmcq a One 1 [x".toList ++ '\n' :: "mcq b A:B 2 [y]".toList) .unstated =
        .ok long := ⟨_, rfl⟩
  obtain ⟨w, hw⟩ : ∃ w, readForm parseLine "form f\n  text-input a".toList = .ok w := ⟨_, rfl⟩
  obtain ⟨short, q, q', hshort, hpreview⟩ := hquiz long hlong
  obtain ⟨id, submitLabel, fields, fields', hread⟩ := hform parseLine w hw
  exact ⟨⟨long, short, q, q', hlong, hshort, hpreview⟩,
    w, id, submitLabel, fields, fields', hw, hread⟩

end Widgetry.Streaming
