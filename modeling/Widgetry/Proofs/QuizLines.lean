import Widgetry.Proofs.BlockGrammar
import Widgetry.Proofs.Dispatch
import Widgetry.Proofs.Failure
import Widgetry.Widget.Parts

/-!
# The lines of a quiz and its questions

Below its settings a quiz has one question for each line that opens with the word for one, in order
(`corresponds_of_mapM`). But the settings take every line with a colon until the first line without
one, and a question may have a colon in its text. So the questions correspond to all lines of the
quiz exactly if the settings have taken no question (`corresponds_of_parse`), and a quiz that is
accepted may lack one (`not_corresponds_colon`).
-/

namespace Widgetry.Grammar

open Text Outcome Streaming

/-! ## Questions and their lines -/

/-- Does the line open with the word for a question? -/
def opensQuestion (line : Text) : Bool :=
  ((tokenize (trim line)).head?.bind QuestionKind.ofText?).isSome

/-- The line asks the question: its first token is the word for the kind of question, and its second
one the id. -/
def Asks (line : Text) (q : Question) : Prop :=
  ∃ rest, tokenize (trim line) = q.kind.text :: q.id :: rest

/-- The questions are those of the lines that open with the word for one, each from its own line and
in the order of the lines. -/
def Corresponds (ls : List Text) (questions : List Question) : Prop :=
  List.Forall₂ Asks (ls.filter opensQuestion) questions

theorem opensQuestion_of_tokens {line : Text} {kind : QuestionKind} {rest : List Text}
    (h : tokenize (trim line) = kind.text :: rest) : opensQuestion line = true := by
  simp [opensQuestion, h]

/-- The word and the id of a question that has been read. -/
theorem parts_of_readQuestion {number : Int} {word : Text} {parts : List Text} {q : Question}
    (h : readQuestion number word parts = .ok q) :
    word = q.kind.text ∧ ∃ rest, parts = q.id :: rest := by
  rcases readQuestion_eq_ok_iff.mp h with ⟨w, hword, hw, rfl⟩ | ⟨w, hword, hw, rfl⟩
  · obtain ⟨id, question, token, array, rest, points, choices, rfl, -, -, rfl⟩ :=
      readChoiceQuestion_eq_ok_iff.mp hw
    exact ⟨hword, _, rfl⟩
  · obtain ⟨id, question, token, rest, points, single, several, rfl, -, -, rfl⟩ :=
      readWrittenQuestion_eq_ok_iff.mp hw
    exact ⟨hword, _, rfl⟩

/-- **Lines that have been read as questions correspond to them.** Lines without tokens are skipped,
and every other line must open with the word for a question. -/
theorem corresponds_of_mapM {ls : List Text} {n : Nat} {questions : List Question}
    (h : ((ls.zipIdx n).filterMap fun x => questionLine? x.1 x.2).mapM
      (fun l => readQuestion l.number l.word l.parts) = .ok questions) :
    Corresponds ls questions := by
  induction ls generalizing n questions with
  | nil =>
    have hnil : [] = questions := pure_eq_ok_iff.mp h
    subst hnil
    exact .nil
  | cons line ls ih =>
    rw [List.zipIdx_cons] at h
    unfold Corresponds
    cases htokens : tokenize (trim line) with
    | nil =>
      have hline : questionLine? line n = none := by simp [questionLine?, htokens]
      have hclosed : opensQuestion line = false := by simp [opensQuestion, htokens]
      simp only [List.filterMap_cons, hline] at h
      rw [List.filter_cons_of_neg (by simp [hclosed])]
      exact ih h
    | cons word parts =>
      have hline : questionLine? line n = some ⟨n, word, parts⟩ := by
        simp [questionLine?, htokens]
      simp only [List.filterMap_cons, hline, List.mapM_cons] at h
      obtain ⟨question, hquestion, hrest⟩ := bind_eq_ok_iff.mp h
      obtain ⟨others, hothers, hall⟩ := bind_eq_ok_iff.mp hrest
      obtain ⟨hword, rest, hparts⟩ := parts_of_readQuestion hquestion
      have hasks : Asks line question := ⟨rest, by rw [htokens, hword, hparts]⟩
      rw [← pure_eq_ok_iff.mp hall,
        List.filter_cons_of_pos (opensQuestion_of_tokens (hword ▸ htokens))]
      exact .cons hasks (ih hothers)

/-! ## Questions that the settings take -/

/-- A line that the settings take and that opens with the word for a question has a colon. -/
theorem colon_of_mem_settings {source line : Text}
    (hmem : line ∈ (body source).take (settingsLength source))
    (hopens : opensQuestion line = true) :
    ':' ∈ line := by
  obtain ⟨i, hi, hline⟩ := List.mem_take_iff_getElem.mp hmem
  have hends : endsSettings line = false := by
    have hlt : i < (body source).findIdx endsSettings := lt_of_lt_of_le hi (min_le_left _ _)
    rw [← hline]
    simpa using List.not_of_lt_findIdx hlt
  have hink : trim line ≠ [] := by
    intro hnil
    rw [opensQuestion, hnil] at hopens
    exact absurd hopens (by decide)
  simpa [endsSettings, hink] using hends

/-- Lines in front of the questions do not matter exactly if none of them is a question. -/
theorem corresponds_append_iff {before after : List Text} {questions : List Question}
    (h : Corresponds after questions) :
    Corresponds (before ++ after) questions ↔ ∀ line ∈ before, opensQuestion line = false := by
  unfold Corresponds at h ⊢
  rw [List.filter_append]
  constructor
  · intro hall
    have hlength := hall.length_eq
    rw [List.length_append, h.length_eq] at hlength
    have hnil : before.filter opensQuestion = [] := List.length_eq_zero_iff.mp (by omega)
    simpa [List.filter_eq_nil_iff] using hnil
  · intro hnone
    have hnil : before.filter opensQuestion = [] := by
      simpa [List.filter_eq_nil_iff] using hnone
    rw [hnil]
    exact h

/-- A block is accepted as a quiz exactly if its first token says so and the grammar of quizzes
accepts it. -/
theorem parse_eq_quiz_iff {t : Text} {q : Quiz} :
    parse t = .ok (.quiz q) ↔
      (tokenize (trim t)).head? = some Keyword.quiz.text ∧ readQuiz (trim t) = .ok q := by
  constructor
  · intro h
    refine ⟨head_tokenize_of_parse h, ?_⟩
    obtain ⟨parts, -, hread⟩ := parseWith_eq_ok h
    obtain ⟨q', hq', hquiz⟩ := map_eq_ok_iff.mp hread
    cases hquiz
    exact hq'
  · rintro ⟨hhead, hread⟩
    obtain ⟨parts, hparse⟩ := parse_of_head hhead
    rw [hparse]
    exact map_eq_ok_iff.mpr ⟨q, hread, rfl⟩

/-- **Which questions an accepted quiz has.** They correspond to the lines below its settings, which
end before the first line that is not blank and has no colon. They correspond to all lines after the
first one exactly if the settings have taken no line that opens with the word for a question. Such
a line has a colon, so a quiz without colons in its questions loses none. -/
theorem corresponds_of_parse {t : Text} {q : Quiz} (h : parse t = .ok (.quiz q)) :
    Corresponds ((body (trim t)).drop (settingsLength (trim t))) q.questions ∧
    (Corresponds (body (trim t)) q.questions ↔
      ∀ line ∈ (body (trim t)).take (settingsLength (trim t)), opensQuestion line = false) ∧
    (∀ line ∈ (body (trim t)).take (settingsLength (trim t)),
      opensQuestion line = true → ':' ∈ line) ∧
    ((∀ line ∈ body (trim t), opensQuestion line = true → ':' ∉ line) →
      Corresponds (body (trim t)) q.questions) := by
  obtain ⟨id, title, rest, settings, read, questions, -, hsettings, hquestions, -, rfl⟩ :=
    readQuiz_eq_ok_iff.mp (parse_eq_quiz_iff.mp h).2
  have hread : read = settingsLength (trim t) := read_eq_settingsLength hsettings
  have hbelow : Corresponds ((body (trim t)).drop (settingsLength (trim t))) questions := by
    rw [← hread]
    exact corresponds_of_mapM hquestions
  have hiff : Corresponds ((body (trim t)).take (settingsLength (trim t)) ++
      (body (trim t)).drop (settingsLength (trim t))) questions ↔ _ :=
    corresponds_append_iff hbelow
  rw [List.take_append_drop] at hiff
  refine ⟨hbelow, hiff, fun line => colon_of_mem_settings, fun hcolons => hiff.mpr ?_⟩
  intro line hmem
  by_contra hopens
  have hopens : opensQuestion line = true := by simpa using hopens
  exact hcolons line (List.mem_of_mem_take hmem) hopens (colon_of_mem_settings hmem hopens)

/-- A quiz with a setting, a blank line and two questions, of which the second has a colon. -/
theorem corresponds_two_questions :
    let t := "quiz q T\nshowScore: false\n\nmcq a One 1 [x]\nshort-answer b 1:2 1".toList
    ∃ q, parse t = .ok (.quiz q) ∧ q.questions.map Question.id = ["a".toList, "b".toList] ∧
      Corresponds (body t) q.questions := by
  intro t
  let q : Quiz := ⟨"q".toList, "T".toList,
    [.choice ⟨"a".toList, "One".toList, 1, ["x".toList], none, none⟩,
      .written ⟨"b".toList, "1:2".toList, 1, none, none, none⟩], false, true, none⟩
  have hparse : parse t = .ok (.quiz q) :=
    parse_eq_quiz_iff.mpr ⟨by decide +kernel, by decide +kernel⟩
  obtain ⟨-, hiff, -⟩ := corresponds_of_parse hparse
  exact ⟨q, hparse, rfl, hiff.mpr (by decide +kernel)⟩

/-- **A quiz may lose a question.** The first question has a colon in its text, so the settings take
its line, and the quiz is accepted with the second question alone. -/
theorem not_corresponds_colon :
    let t := "quiz q T\nmcq a \"Is 1:2 half?\" 1 [yes no]\nmcq b Two 1 [x]".toList
    ∃ q, parse t = .ok (.quiz q) ∧
      (body t).map opensQuestion = [true, true] ∧
      q.questions.map Question.id = ["b".toList] ∧ ¬ Corresponds (body t) q.questions := by
  intro t
  let q : Quiz := ⟨"q".toList, "T".toList,
    [.choice ⟨"b".toList, "Two".toList, 1, ["x".toList], none, none⟩], true, true, none⟩
  have hparse : parse t = .ok (.quiz q) :=
    parse_eq_quiz_iff.mpr ⟨by decide +kernel, by decide +kernel⟩
  refine ⟨q, hparse, by decide +kernel, rfl, ?_⟩
  intro h
  exact absurd h.length_eq (by decide +kernel)

end Widgetry.Grammar
