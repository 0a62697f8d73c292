import Widgetry.Proofs.QuizSettings
import Widgetry.Proofs.Verdict

/-!
# When a stream fails

A stream fails only over an integer that is too long, and only in a quiz: over a passing score among
the settings, or over the points of a question, as they stand in the line that the preview has
completed (`stream_fails_iff`). Completing a line adds closers, and closers are no digits, so the
grammar meets the same integer in the raw line (`oversizedPoints_of_complete`): no finished block
hides the failure.
-/

namespace Widgetry

open Text Scan Outcome Grammar

namespace Streaming

/-! ## The points of a question -/

/-- The points of a question are too long: the first token opens a question and the fourth is an
integer that is too long. -/
def OversizedPoints (tokens : List Text) : Prop :=
  ∃ kind : QuestionKind, tokens.head? = some kind.text ∧
    ∃ token, tokens[3]? = some token ∧ Oversized token

theorem previewPoints_eq_error_iff {part : Option Text} {e : OversizedInteger} :
    previewPoints part = .error e ↔
      ∃ token, part = some token ∧ Oversized token ∧ e = ⟨integerDigits token⟩ := by
  cases part with
  | none => simp [previewPoints]
  | some token =>
    rw [previewPoints, map_eq_error_iff, readInteger_eq_error_iff]
    simp

/-- The preview of a question fails over its points, and over nothing else. -/
theorem previewQuestion_eq_error_iff {index : Int} {line : Text} {e : OversizedInteger} :
    previewQuestion index line = .error e ↔
      ∃ (kind : QuestionKind) (parts : List Text),
        tokenize (complete line) = kind.text :: parts ∧ previewPoints parts[2]? = .error e := by
  unfold previewQuestion
  cases htokens : tokenize (complete line) with
  | nil => simp
  | cons word parts =>
    cases hkind : QuestionKind.ofText? word with
    | none =>
      constructor
      · intro h
        exact absurd h (by simp [hkind])
      · rintro ⟨kind, parts', hparts, -⟩
        rw [(List.cons.inj hparts).1, QuestionKind.ofText?_text] at hkind
        exact absurd hkind (by simp)
    | some kind =>
      have hword := QuestionKind.text_of_ofText? hkind
      simp only [hkind]
      constructor
      · intro h
        rcases bind_eq_error_iff.mp h with hpoints | ⟨points, -, h⟩
        · exact ⟨kind, parts, by rw [hword], hpoints⟩
        · cases kind <;> exact absurd h pure_ne_error
      · rintro ⟨kind', parts', hparts, hpoints⟩
        rw [(List.cons.inj hparts).2]
        exact bind_eq_error_iff.mpr (Or.inl hpoints)

/-- **The preview of a question fails exactly if its points are too long.** -/
theorem exists_previewQuestion_eq_error_iff {index : Int} {line : Text} :
    (∃ e, previewQuestion index line = .error e) ↔ OversizedPoints (tokenize (complete line)) := by
  constructor
  · rintro ⟨e, he⟩
    obtain ⟨kind, parts, htokens, hpoints⟩ := previewQuestion_eq_error_iff.mp he
    obtain ⟨token, htoken, hlong, -⟩ := previewPoints_eq_error_iff.mp hpoints
    rw [htokens]
    exact ⟨kind, rfl, token, htoken, hlong⟩
  · rintro ⟨kind, hhead, token, htoken, hlong⟩
    obtain ⟨parts, htokens⟩ := List.head?_eq_some_iff.mp hhead
    rw [htokens, List.getElem?_cons_succ] at htoken
    have hpoints := previewPoints_eq_error_iff.mpr ⟨token, htoken, hlong, rfl⟩
    exact ⟨_, previewQuestion_eq_error_iff.mpr ⟨kind, parts, htokens, hpoints⟩⟩

theorem digits_of_previewQuestion {index : Int} {line : Text} {e : OversizedInteger}
    (h : previewQuestion index line = .error e) : maxIntegerDigits < e.digits := by
  obtain ⟨kind, parts, -, hpoints⟩ := previewQuestion_eq_error_iff.mp h
  obtain ⟨token, -, hlong, rfl⟩ := previewPoints_eq_error_iff.mp hpoints
  exact hlong

/-! ## The points in the raw line -/

/-- **Points that are too long in the completed line are too long in the raw line.** Closers finish
at most one token, an array or closers alone, and these are no integers. -/
theorem oversizedPoints_of_complete {line : Text} (h : OversizedPoints (tokenize (complete line))) :
    OversizedPoints (tokenize line) := by
  obtain ⟨kind, hhead, token, htoken, hlong⟩ := h
  have hclosers : ∀ c ∈ (OpenSpan.ofText line).closing, IsCloser c :=
    fun c hc => OpenSpan.isCloser_of_mem_closing hc
  -- the fourth token exists, so at least three are finished and the first one is among them
  have hfirst : 3 ≤ (scan line).tokens.length → (tokenize line).head? = some kind.text := by
    intro hlength
    rw [List.head?_eq_getElem?] at hhead ⊢
    rw [← getElem?_tokenize_append (by omega) (OpenSpan.ofText line).closing]
    exact hhead
  unfold Oversized at hlong
  rcases getElem?_tokenize_append_closers hclosers htoken with
    ⟨hlt, htoken⟩ | ⟨hlength, x, hx, rfl⟩ | harray | honly
  · exact ⟨kind, hfirst (by omega), token, htoken, hlong⟩
  · rw [integerDigits_trim, integerDigits_append_closers hx] at hlong
    have hcurrent : trim (scan line).current.reverse ≠ [] := by
      intro hnil
      rw [integerDigits_of_blank (trim_eq_nil_iff.mp hnil)] at hlong
      omega
    refine ⟨kind, hfirst (by omega), trim (scan line).current.reverse, ?_, ?_⟩
    · rw [hlength]
      exact getElem?_tokenize_current hcurrent
    · rw [Oversized, integerDigits_trim]
      exact hlong
  · rw [integerDigits_of_bracket harray] at hlong
    omega
  · rw [integerDigits_of_isCloser honly] at hlong
    omega

theorem readPoints_ne_ok {line points : Int} {token : Text} (h : Oversized token) :
    readPoints line token ≠ .ok points := by
  obtain ⟨e, he⟩ := exists_readInteger_eq_error_iff.mpr h
  rw [readPoints, he]
  simp

/-- The grammar refuses a question whose points are too long. -/
theorem readQuestion_ne_ok {line : Int} {word : Text} {parts : List Text} {q : Question}
    (h : OversizedPoints (word :: parts)) : readQuestion line word parts ≠ .ok q := by
  intro hok
  obtain ⟨kind, hword, token, htoken, hlong⟩ := h
  obtain ⟨id, question, rest, rfl⟩ : ∃ id question rest, parts = id :: question :: token :: rest := by
    match parts, htoken with
    | id :: question :: points :: rest, htoken => exact ⟨id, question, rest, by simpa using htoken⟩
  rw [Option.some.inj hword, readQuestion, QuestionKind.ofText?_text] at hok
  cases kind with
  | choice =>
    obtain ⟨q', hq, -⟩ := map_eq_ok_iff.mp hok
    cases rest with
    | nil => exact absurd hq (by simp [readChoiceQuestion])
    | cons choices rest =>
      obtain ⟨points, hpoints, -⟩ := bind_eq_ok_iff.mp hq
      exact readPoints_ne_ok hlong hpoints
  | written =>
    obtain ⟨q', hq, -⟩ := map_eq_ok_iff.mp hok
    obtain ⟨points, hpoints, -⟩ := bind_eq_ok_iff.mp hq
    exact readPoints_ne_ok hlong hpoints

/-! ## The quiz -/

/-- The lines of a text after the first one. -/
def body (source : Text) : List Text := (lines source).2

/-- How many lines the settings of a quiz take. -/
def settingsLength (source : Text) : Nat := (body source).findIdx endsSettings

theorem read_eq_settingsLength {source : Text} {s : QuizSettings} {read : Nat}
    (h : readQuizSettings .unstated 0 (body source) = .ok (s, read)) :
    read = settingsLength source := by
  rw [read_of_readQuizSettings h, Nat.zero_add, settingsLength]

/-- What makes a quiz fail: a passing score among the settings, or the points of a question, as they
stand in the completed line. -/
def QuizFails (source : Text) : Prop :=
  (∃ line ∈ (body source).take (settingsLength source), OversizedScore line) ∨
    ∃ line ∈ (body source).drop (settingsLength source),
      OversizedPoints (tokenize (complete (trim line)))

theorem exists_mem_zipIdx_iff {lines : List Text} {n : Nat} {P : Text → Prop} :
    (∃ x ∈ lines.zipIdx n, P x.1) ↔ ∃ line ∈ lines, P line := by
  conv_rhs => rw [← List.zipIdx_map_fst n lines]
  simp only [List.mem_map, exists_exists_and_eq_and]

/-- The preview of a quiz fails in its settings or in one of its questions. -/
theorem previewQuiz_eq_error {source : Text} {e : OversizedInteger}
    (h : previewQuiz source = .error e) :
    readQuizSettings .unstated 0 (body source) = .error e ∨
      ∃ line ∈ (body source).drop (settingsLength source), ∃ index : Int,
        previewQuestion index (trim line) = .error e := by
  rcases bind_eq_error_iff.mp h with h | ⟨⟨s, read⟩, hsettings, h⟩
  · exact Or.inl h
  · rcases bind_eq_error_iff.mp h with h | ⟨questions, -, h⟩
    · obtain ⟨⟨line, index⟩, hmem, hline⟩ := exists_of_mapM_eq_error h
      rw [read_eq_settingsLength hsettings] at hmem
      exact Or.inr ⟨line, List.fst_mem_of_mem_zipIdx hmem, index, hline⟩
    · exact absurd h pure_ne_error

/-- What the preview of a quiz fails over. -/
theorem exists_previewQuiz_eq_error_iff {source : Text} :
    (∃ e, previewQuiz source = .error e) ↔ QuizFails source := by
  constructor
  · rintro ⟨e, he⟩
    rcases previewQuiz_eq_error he with h | ⟨line, hmem, index, h⟩
    · exact Or.inl (exists_readQuizSettings_eq_error_iff.mp ⟨e, h⟩)
    · exact Or.inr ⟨line, hmem, exists_previewQuestion_eq_error_iff.mp ⟨e, h⟩⟩
  · intro h
    cases hsettings : readQuizSettings .unstated 0 (body source) with
    | error e => exact ⟨e, bind_eq_error_iff.mpr (Or.inl hsettings)⟩
    | ok settings =>
      obtain ⟨s, read⟩ := settings
      rcases h with hscore | hpoints
      · -- a score that is too long has stopped the settings
        obtain ⟨e, he⟩ := exists_readQuizSettings_eq_error_iff.mpr hscore
        rw [he] at hsettings
        exact absurd hsettings (by simp)
      · rw [← exists_mem_zipIdx_iff (n := read + 1)] at hpoints
        obtain ⟨⟨line, index⟩, hmem, hlong⟩ := hpoints
        rw [← read_eq_settingsLength hsettings] at hmem
        obtain ⟨e, he⟩ := exists_previewQuestion_eq_error_iff.mpr hlong
        obtain ⟨e', he'⟩ := exists_mapM_eq_error_iff
          (f := fun x : Text × Nat => previewQuestion x.2 (trim x.1)) |>.mpr ⟨_, hmem, e, he⟩
        refine ⟨e', bind_eq_error_iff.mpr (Or.inr ⟨(s, read), hsettings, ?_⟩)⟩
        exact bind_eq_error_iff.mpr (Or.inl he')

/-- **The grammar refuses every quiz over which the preview fails.** It reads the same settings, and
it meets the same points in the raw lines. -/
theorem readQuiz_ne_ok {source : Text} {q : Quiz} (h : QuizFails source) :
    readQuiz source ≠ .ok q := by
  intro hok
  simp only [readQuiz] at hok
  split at hok
  · obtain ⟨⟨s, read⟩, hsettings, hok⟩ := bind_eq_ok_iff.mp hok
    rw [mapError_eq_ok_iff] at hsettings
    obtain ⟨questions, hquestions, -⟩ := bind_eq_ok_iff.mp hok
    rcases h with hscore | hpoints
    · obtain ⟨e, he⟩ := exists_readQuizSettings_eq_error_iff.mpr hscore
      rw [body, hsettings] at he
      exact absurd he (by simp)
    · rw [← exists_mem_zipIdx_iff (n := read + 2)] at hpoints
      obtain ⟨⟨line, number⟩, hmem, hlong⟩ := hpoints
      have hraw := oversizedPoints_of_complete hlong
      rw [← read_eq_settingsLength hsettings] at hmem
      have htokens : ∃ word parts, tokenize (trim line) = word :: parts := by
        obtain ⟨kind, hhead, -⟩ := hraw
        exact ⟨kind.text, List.head?_eq_some_iff.mp hhead⟩
      obtain ⟨word, parts, htokens⟩ := htokens
      obtain ⟨question, hquestion⟩ := exists_of_mapM_eq_ok hquestions ⟨number, word, parts⟩
        (List.mem_filterMap.mpr ⟨_, hmem, by simp [questionLine?, htokens]⟩)
      rw [htokens] at hraw
      exact readQuestion_ne_ok hraw hquestion
  · exact absurd hok (by simp)

/-! ## The stream -/

/-- **A stream fails exactly if the preview of a quiz does.** No finished block hides the failure,
for the grammar refuses such a quiz too. -/
theorem stream_eq_error_iff {t : Text} {e : OversizedInteger} :
    stream t = .error e ↔
      Keyword.leadingWord (trim t) = Keyword.quiz.text ∧ previewQuiz (trim t) = .error e := by
  constructor
  · intro h
    rcases stream_cases t with ⟨-, hs⟩ | ⟨-, -, ⟨-, hs⟩ | ⟨-, hs⟩⟩ | ⟨k, hk, ⟨w, -, hs⟩ | ⟨-, hs⟩⟩
    · exact absurd (hs.symm.trans h) (by simp)
    · exact absurd (hs.symm.trans h) (by simp)
    · exact absurd (hs.symm.trans h) (by simp)
    · exact absurd (hs.symm.trans h) (by simp)
    · rw [hs, preview, Keyword.ofText?_text] at h
      cases k with
      | quiz => exact ⟨hk, map_eq_error_iff.mp h⟩
      | _ => exact absurd h (by simp)
  · rintro ⟨hword, hquiz⟩
    have hkeyword : Keyword.ofText? (Keyword.leadingWord (trim t)) = some .quiz := by
      rw [hword, Keyword.ofText?_text]
    rcases stream_cases t with ⟨hnil, -⟩ | ⟨-, hnone, -⟩ | ⟨k, hk, ⟨w, hfin, -⟩ | ⟨-, hs⟩⟩
    · rw [hnil] at hword
      exact absurd hword.symm (Keyword.text_ne_nil _)
    · rw [hkeyword] at hnone
      exact absurd hnone (by simp)
    · -- a finished block is a quiz that the grammar accepts
      obtain ⟨-, hparse⟩ := finished?_eq_some_iff.mp hfin
      rw [← trim_trim] at hkeyword
      have hquizKeyword := keyword_of_parse hkeyword hparse
      obtain ⟨parts, -, hblock⟩ := parseWith_eq_ok hparse
      rw [hquizKeyword] at hblock
      obtain ⟨q, hq, -⟩ := map_eq_ok_iff.mp hblock
      rw [trim_trim] at hq
      exact absurd hq (readQuiz_ne_ok (exists_previewQuiz_eq_error_iff.mp ⟨e, hquiz⟩))
    · rw [hs, ← hk, hword, preview, Keyword.ofText?_text]
      exact map_eq_error_iff.mpr hquiz

theorem digits_of_stream {t : Text} {e : OversizedInteger} (h : stream t = .error e) :
    maxIntegerDigits < e.digits := by
  obtain ⟨-, hquiz⟩ := stream_eq_error_iff.mp h
  rcases previewQuiz_eq_error hquiz with h | ⟨line, -, index, h⟩
  · exact digits_of_readQuizSettings h
  · exact digits_of_previewQuestion h

/-! ## By line numbers -/

/-- The number of the line where the questions of a quiz start: the first line after the first one
that is neither blank nor has a colon, or the line after the last. -/
def questionStart (lines : List Text) : Nat := lines.tail.findIdx endsSettings + 1

/-- What makes a stream fail: it is a quiz, and one of the lines before the questions is a passing
score that is too long, or one of the lines of the questions, completed, has points that are too
long. -/
def Fails (t : Text) : Prop :=
  let lines := pieces (· == '\n') (trim t)
  Keyword.leadingWord (trim t) = Keyword.quiz.text ∧
    ((∃ i line, 1 ≤ i ∧ i < questionStart lines ∧ lines[i]? = some line ∧ OversizedScore line) ∨
      ∃ i line, questionStart lines ≤ i ∧ lines[i]? = some line ∧
        OversizedPoints (tokenize (complete (trim line))))

theorem pieces_eq_cons (source : Text) :
    pieces (· == '\n') source = (lines source).1 :: body source := rfl

theorem exists_mem_take_iff {source : Text} {n : Nat} {P : Text → Prop} :
    (∃ line ∈ (body source).take n, P line) ↔
      ∃ i line, 1 ≤ i ∧ i < n + 1 ∧ (pieces (· == '\n') source)[i]? = some line ∧ P line := by
  rw [pieces_eq_cons]
  constructor
  · rintro ⟨line, hmem, hline⟩
    obtain ⟨i, hi⟩ := List.mem_iff_getElem?.mp hmem
    rw [List.getElem?_take] at hi
    split at hi
    · exact ⟨i + 1, line, by omega, by omega, hi, hline⟩
    · exact absurd hi (by simp)
  · rintro ⟨i, line, hpos, hlt, hi, hline⟩
    obtain ⟨j, rfl⟩ := Nat.exists_eq_add_of_le' hpos
    refine ⟨line, List.mem_iff_getElem?.mpr ⟨j, ?_⟩, hline⟩
    rw [List.getElem?_take, if_pos (by omega)]
    exact hi

theorem exists_mem_drop_iff {source : Text} {n : Nat} {P : Text → Prop} :
    (∃ line ∈ (body source).drop n, P line) ↔
      ∃ i line, n + 1 ≤ i ∧ (pieces (· == '\n') source)[i]? = some line ∧ P line := by
  rw [pieces_eq_cons]
  constructor
  · rintro ⟨line, hmem, hline⟩
    obtain ⟨i, hi⟩ := List.mem_iff_getElem?.mp hmem
    rw [List.getElem?_drop] at hi
    exact ⟨n + i + 1, line, by omega, hi, hline⟩
  · rintro ⟨i, line, hle, hi, hline⟩
    obtain ⟨j, rfl⟩ := Nat.exists_eq_add_of_le hle
    rw [show n + 1 + j = n + j + 1 by omega] at hi
    refine ⟨line, List.mem_iff_getElem?.mpr ⟨j, ?_⟩, hline⟩
    rw [List.getElem?_drop]
    exact hi

theorem fails_iff {t : Text} :
    Fails t ↔ Keyword.leadingWord (trim t) = Keyword.quiz.text ∧ QuizFails (trim t) := by
  unfold QuizFails
  rw [exists_mem_take_iff, exists_mem_drop_iff]
  rfl

/-- **Exactly when a stream fails.** It fails on the texts described by `Fails`, always over an
integer of more than `maxIntegerDigits` digits, and it answers on every other text. -/
theorem stream_fails_iff (t : Text) :
    ((∃ e, stream t = .error e) ↔ Fails t) ∧
      (∀ e, stream t = .error e → maxIntegerDigits < e.digits) ∧
      ((∃ r, stream t = .ok r) ↔ ¬ Fails t) := by
  have hfails : (∃ e, stream t = .error e) ↔ Fails t := by
    rw [fails_iff, ← exists_previewQuiz_eq_error_iff]
    simp only [stream_eq_error_iff, exists_and_left]
  refine ⟨hfails, fun e => digits_of_stream, ?_⟩
  rw [← hfails]
  cases hs : stream t with
  | ok r => simp
  | error e => simp

end Streaming

end Widgetry
