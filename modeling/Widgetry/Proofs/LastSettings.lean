import Mathlib.Order.Bounds.Basic
import Widgetry.Proofs.QuizSettings
import Widgetry.Streaming.Quiz

/-!
# The last setting counts

The settings of a quiz are read line by line, and a line replaces what the lines before it have said.
So the loop comes to what the lines say in all (`lastStated`): for each setting the last line that
says something about it counts, and a passing score that is no number says nothing. Where the lines
say nothing, the quiz keeps what it has, and so does a preview (`configured_of_readQuizSettings`).
-/

namespace Widgetry

open Text Outcome Grammar

namespace Grammar

/-! ## Settings that are kept -/

/-- The settings that are stated, and those of `start` for the others. -/
def QuizSettings.orElse (s start : QuizSettings) : QuizSettings where
  showScore := s.showScore <|> start.showScore
  showProgress := s.showProgress <|> start.showProgress
  passingScore := s.passingScore <|> start.passingScore

@[simp] theorem QuizSettings.unstated_orElse (start : QuizSettings) :
    QuizSettings.unstated.orElse start = start := rfl

@[simp] theorem QuizSettings.orElse_unstated (s : QuizSettings) : s.orElse .unstated = s := by
  simp [orElse, unstated]

theorem QuizSettings.orElse_assoc (a b c : QuizSettings) :
    (a.orElse b).orElse c = a.orElse (b.orElse c) := by
  simp [orElse, Option.or_assoc]

/-! ## What lines say -/

/-- The value that a line states for a setting. -/
def settingValue? (key : QuizKey) (line : Text) : Option Text :=
  (readSetting? (trim line)).bind fun setting =>
    if setting.1 = key.text then some setting.2 else none

/-- What a line says about a yes/no setting: yes if the value is the word `true`, in any case. -/
def statedFlag? (key : QuizKey) (line : Text) : Option Bool := (settingValue? key line).map isTrue

/-- The passing score that a line states, if its value begins with an integer. -/
def statedScore? (line : Text) : Option Int :=
  (settingValue? .passingScore line).bind fun value => (readInteger value).toOption.join

/-- What one line says. -/
def statedBy (line : Text) : QuizSettings where
  showScore := statedFlag? .showScore line
  showProgress := statedFlag? .showProgress line
  passingScore := statedScore? line

/-- What lines say in all: for each setting the last line that says something about it. -/
def lastStated (ls : List Text) : QuizSettings where
  showScore := (ls.filterMap (statedFlag? .showScore)).getLast?
  showProgress := (ls.filterMap (statedFlag? .showProgress)).getLast?
  passingScore := (ls.filterMap statedScore?).getLast?

theorem lastStated_cons (line : Text) (ls : List Text) :
    lastStated (line :: ls) = (lastStated ls).orElse (statedBy line) := by
  simp only [lastStated, statedBy, QuizSettings.orElse, getLast?_filterMap_cons]

theorem statedBy_of_readSetting_eq_none {line : Text} (h : readSetting? (trim line) = none) :
    statedBy line = .unstated := by
  simp only [statedBy, statedFlag?, statedScore?, settingValue?, h]
  rfl

theorem settingValue?_of_readSetting {line word value : Text}
    (h : readSetting? (trim line) = some (word, value)) (key : QuizKey) :
    settingValue? key line = if QuizKey.ofText? word = some key then some value else none := by
  simp only [settingValue?, h, Option.bind_some, QuizKey.ofText?_eq_some_iff]

/-- **A line replaces what has been said.** -/
theorem eq_statedBy_orElse_of_set {s s' : QuizSettings} {line word value : Text}
    (h : readSetting? (trim line) = some (word, value)) (hset : s.set word value = .ok s') :
    s' = (statedBy line).orElse s := by
  unfold QuizSettings.set at hset
  simp only [statedBy, statedFlag?, statedScore?, settingValue?_of_readSetting h]
  cases hkey : QuizKey.ofText? word with
  | none =>
    rw [hkey] at hset
    cases hset
    rfl
  | some key =>
    rw [hkey] at hset
    cases key with
    | showScore =>
      cases hset
      rfl
    | showProgress =>
      cases hset
      rfl
    | passingScore =>
      obtain ⟨score?, hscore, rfl⟩ := map_eq_ok_iff.mp hset
      simp only [if_pos, Option.bind_some, hscore]
      cases score? <;> rfl

/-! ## All lines -/

/-- **The loop comes to what the lines say in all**, and keeps what it has begun with where they say
nothing. -/
theorem eq_lastStated_orElse_of_readQuizSettings {s s' : QuizSettings} {read read' : Nat}
    {body : List Text} (h : readQuizSettings s read body = .ok (s', read')) :
    s' = (lastStated (body.take (body.findIdx endsSettings))).orElse s := by
  induction body generalizing s read with
  | nil =>
    cases h
    rfl
  | cons line rest ih =>
    rw [List.findIdx_cons]
    rcases readQuizSettings_cons s read line rest with
      ⟨hnil, hread⟩ | ⟨hends, hread⟩ | ⟨key, value, hsetting, ⟨s₁, hset, hread⟩ | ⟨e, -, hread⟩⟩
    · -- a blank line says nothing
      have hnone : readSetting? (trim line) = none := by
        rw [hnil]
        rfl
      rw [hread] at h
      rw [ih h, endsSettings_of_blank hnil, cond_false, List.take_succ_cons, lastStated_cons,
        statedBy_of_readSetting_eq_none hnone, QuizSettings.orElse_unstated]
    · rw [hread] at h
      cases h
      rw [hends]
      rfl
    · rw [hread] at h
      rw [ih h, not_endsSettings_of_readSetting hsetting, cond_false, List.take_succ_cons,
        lastStated_cons, QuizSettings.orElse_assoc, ← eq_statedBy_orElse_of_set hsetting hset]
    · rw [hread] at h
      exact absurd h (by simp)

end Grammar

/-! ## Quizzes and previews -/

/-- The settings of a quiz. -/
def Quiz.settings (q : Quiz) : QuizSettings :=
  ⟨some q.showScore, some q.showProgress, q.passingScore⟩

/-- The settings of a preview, as far as it has any. -/
def QuizPreview.settings (p : QuizPreview) : QuizSettings :=
  ⟨p.showScore, p.showProgress, p.passingScore⟩

theorem settings_applyTo (s : QuizSettings) (q : Quiz) :
    (s.applyTo q).settings = s.orElse q.settings := by
  obtain ⟨showScore, showProgress, passingScore⟩ := s
  cases showScore <;> cases showProgress <;> rfl

theorem settings_applySettings (s : QuizSettings) (p : QuizPreview) :
    (Streaming.applySettings s p).settings = s.orElse p.settings := rfl

namespace Grammar

/-- The line at the position ends the settings: it stands below the first line, is not blank, and has
no colon. -/
def EndsAt (ls : List Text) (i : Nat) : Prop :=
  1 ≤ i ∧ ∃ line, ls[i]? = some line ∧ trim line ≠ [] ∧ ':' ∉ trim line

/-- What the lines strictly between the first one and the one at the index say in all. -/
def statedAbove (ls : List Text) (index : Nat) : QuizSettings := lastStated ((ls.take index).drop 1)

/-- What becomes of a quiz and of a preview by the settings on the lines of a block. -/
structure Configured (ls : List Text) (quiz quiz' : Quiz) (preview preview' : QuizPreview)
    (index : Nat) : Prop where
  /-- The index is that of the first line that ends the settings, or it is behind all lines. -/
  index_eq : IsLeast {i | EndsAt ls i} index ∨ (∀ i, ¬ EndsAt ls i) ∧ index = max 1 ls.length
  quiz_eq : quiz' = { quiz with
    showScore := (statedAbove ls index).showScore.getD quiz.showScore
    showProgress := (statedAbove ls index).showProgress.getD quiz.showProgress
    passingScore := (statedAbove ls index).passingScore <|> quiz.passingScore }
  preview_eq : preview' = { preview with
    showScore := (statedAbove ls index).showScore <|> preview.showScore
    showProgress := (statedAbove ls index).showProgress <|> preview.showProgress
    passingScore := (statedAbove ls index).passingScore <|> preview.passingScore }
  agree : preview.settings = quiz.settings → preview'.settings = quiz'.settings

theorem endsAt_succ_iff {ls : List Text} {i : Nat} :
    EndsAt ls (i + 1) ↔ ∃ line, ls.tail[i]? = some line ∧ endsSettings line = true := by
  have hends (line : Text) : endsSettings line = true ↔ trim line ≠ [] ∧ ':' ∉ trim line := by
    rw [mem_trim_iff (by decide)]
    simp [endsSettings]
  simp [EndsAt, hends]

/-- The first line that ends the settings is found by its position. -/
theorem isLeast_endsAt (ls : List Text) :
    IsLeast {i | EndsAt ls i} (ls.tail.findIdx endsSettings + 1) ∨
      (∀ i, ¬ EndsAt ls i) ∧ ls.tail.findIdx endsSettings + 1 = max 1 ls.length := by
  have hbelow : ∀ i, EndsAt ls i → ls.tail.findIdx endsSettings + 1 ≤ i := by
    intro i hi
    obtain ⟨j, rfl⟩ := Nat.exists_eq_add_of_le' hi.1
    obtain ⟨line, hline, hends⟩ := endsAt_succ_iff.mp hi
    obtain ⟨hj, rfl⟩ := List.getElem?_eq_some_iff.mp hline
    by_contra hlt
    have hopen : endsSettings ls.tail[j] = false := List.not_of_lt_findIdx (by omega)
    exact Bool.false_ne_true (hopen.symm.trans hends)
  by_cases hlt : ls.tail.findIdx endsSettings < ls.tail.length
  · have hends : EndsAt ls (ls.tail.findIdx endsSettings + 1) :=
      endsAt_succ_iff.mpr ⟨_, List.getElem?_eq_getElem hlt, List.findIdx_getElem⟩
    exact Or.inl ⟨hends, hbelow⟩
  · have hall : ls.tail.findIdx endsSettings = ls.tail.length :=
      le_antisymm List.findIdx_le_length (not_lt.mp hlt)
    rw [hall, List.length_tail] at hbelow ⊢
    refine Or.inr ⟨?_, by omega⟩
    intro i hi
    have hle := hbelow i hi
    obtain ⟨-, line, hline, -⟩ := hi
    obtain ⟨hi', -⟩ := List.getElem?_eq_some_iff.mp hline
    omega

/-- **What the settings of a quiz come to.** They end at the first line below the header that is
neither blank nor has a colon. Of the lines above it the last one counts that says something about a
setting, and a quiz and a preview keep what no line says anything about, and everything else. -/
theorem configured_of_readQuizSettings {ls : List Text} {s : QuizSettings} {read : Nat}
    (h : readQuizSettings .unstated 0 ls.tail = .ok (s, read)) (quiz : Quiz)
    (preview : QuizPreview) :
    Configured ls quiz (s.applyTo quiz) preview (Streaming.applySettings s preview) (read + 1) := by
  have hread : read = ls.tail.findIdx endsSettings := by
    rw [read_of_readQuizSettings h, Nat.zero_add]
  have hstated : s = statedAbove ls (read + 1) := by
    rw [eq_lastStated_orElse_of_readQuizSettings h, QuizSettings.orElse_unstated, ← hread,
      statedAbove, List.drop_take, List.drop_one, Nat.add_sub_cancel]
  constructor
  case index_eq =>
    rw [hread]
    exact isLeast_endsAt ls
  case quiz_eq =>
    rw [← hstated]
    rfl
  case preview_eq =>
    rw [← hstated]
    rfl
  case agree =>
    intro hsame
    rw [settings_applySettings, settings_applyTo, hsame]

/-- A blank line, an unknown setting and a passing score that is no number stand among the settings,
one of them is said twice, and a line below the question would be a setting too. -/
theorem configured_said_twice :
    let ls := ["quiz q T", " ShowScore : TRUE", " ", "passingScore: 7 of 9", "level: 2",
      "passingScore: none", "showscore: no", "mcq a One 1 [x]", "showProgress: no"].map String.toList
    let quiz : Quiz := emptyQuiz (some "q".toList) "T".toList
    let quiz' : Quiz := { quiz with showScore := false, passingScore := some 7 }
    let preview := Streaming.unstatedQuiz
    let preview' : QuizPreview := { preview with showScore := some false, passingScore := some 7 }
    readQuizSettings .unstated 0 ls.tail = .ok (⟨some false, none, some 7⟩, 6) ∧
      Configured ls quiz quiz' preview preview' 7 := by
  intro ls quiz quiz' preview preview'
  have hread : readQuizSettings .unstated 0 ls.tail = .ok (⟨some false, none, some 7⟩, 6) := by
    decide +kernel
  exact ⟨hread, configured_of_readQuizSettings hread quiz preview⟩

end Grammar

end Widgetry
