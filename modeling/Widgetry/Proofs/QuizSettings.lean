import Widgetry.Proofs.Lines
import Widgetry.Proofs.Literal
import Widgetry.Proofs.Outcome
import Widgetry.Grammar.Quiz

/-!
# The settings of a quiz

The settings of a quiz end at the first line that is neither blank nor has a colon, whatever the
lines before it say (`read_of_readQuizSettings`), and reading them fails exactly if one of them is a
passing score that is too long (`exists_readQuizSettings_eq_error_iff`).
-/

namespace Widgetry.Grammar

open Text Outcome

/-! ## Setting lines -/

theorem readSetting?_eq_none_iff {line : Text} : readSetting? line = none ↔ ':' ∉ line := by
  rw [readSetting?, Option.map_eq_none_iff, cutFirst?_eq_none_iff]

/-- White space at the ends of a line does not matter for that. -/
theorem readSetting?_trim_eq_none_iff {line : Text} :
    readSetting? (trim line) = none ↔ ':' ∉ line := by
  rw [readSetting?_eq_none_iff, mem_trim_iff (by decide)]

/-- A line that ends the settings: it is not blank and has no colon. -/
def endsSettings (line : Text) : Bool := trim line != [] && !line.contains ':'

/-- A setting with the value of a passing score that is too long. -/
def OversizedScore (line : Text) : Prop :=
  ∃ value, readSetting? (trim line) = some ("passingscore".toList, value) ∧ Oversized value

theorem endsSettings_of_readSetting {line : Text} (hink : trim line ≠ [])
    (h : readSetting? (trim line) = none) : endsSettings line = true := by
  simp [endsSettings, hink, readSetting?_trim_eq_none_iff.mp h]

theorem not_endsSettings_of_readSetting {line : Text} {setting : Text × Text}
    (h : readSetting? (trim line) = some setting) : endsSettings line = false := by
  have hcolon : ':' ∈ line := by
    by_contra hmem
    rw [← readSetting?_trim_eq_none_iff, h] at hmem
    exact absurd hmem (by simp)
  simp [endsSettings, hcolon]

/-- The last value of a longer list, or the value of the member in front. -/
theorem getLast?_filterMap_cons {α β : Type} (f : α → Option β) (x : α) (xs : List α) :
    ((x :: xs).filterMap f).getLast? = ((xs.filterMap f).getLast? <|> f x) := by
  rw [List.filterMap_cons]
  cases f x with
  | none => cases (xs.filterMap f).getLast? <;> rfl
  | some y =>
    rw [List.getLast?_cons]
    cases (xs.filterMap f).getLast? <;> rfl

/-! ## One setting -/

/-- The word for a setting, in lower case. -/
def QuizKey.text : QuizKey → Text
  | showScore => "showscore".toList
  | showProgress => "showprogress".toList
  | passingScore => "passingscore".toList

theorem QuizKey.ofText?_eq_some_iff {word : Text} {key : QuizKey} :
    ofText? word = some key ↔ word = key.text := by
  constructor
  · intro h
    unfold ofText? at h
    split_ifs at h with hscore hprogress hpassing
    · cases h
      exact hscore
    · cases h
      exact hprogress
    · cases h
      exact hpassing
  · rintro rfl
    cases key <;> decide

/-- **A setting fails exactly if it is a passing score that is too long.** -/
theorem set_eq_error_iff {s : QuizSettings} {key value : Text} {e : OversizedInteger} :
    s.set key value = .error e ↔
      key = "passingscore".toList ∧ Oversized value ∧ e = ⟨integerDigits value⟩ := by
  have hpassing : key = "passingscore".toList ↔ QuizKey.ofText? key = some .passingScore :=
    (@QuizKey.ofText?_eq_some_iff key .passingScore).symm
  rw [hpassing, ← readInteger_eq_error_iff, QuizSettings.set]
  cases hkey : QuizKey.ofText? key with
  | none => simp
  | some quizKey =>
    cases quizKey with
    | passingScore => simp [map_eq_error_iff]
    | _ => simp

/-! ## All settings -/

/-- One line of the loop: it is skipped, taken, refused, or ends the settings. -/
theorem readQuizSettings_cons (s : QuizSettings) (read : Nat) (line : Text) (rest : List Text) :
    (trim line = [] ∧
        readQuizSettings s read (line :: rest) = readQuizSettings s (read + 1) rest) ∨
      (endsSettings line = true ∧ readQuizSettings s read (line :: rest) = .ok (s, read)) ∨
      ∃ key value, readSetting? (trim line) = some (key, value) ∧
        ((∃ s', s.set key value = .ok s' ∧
            readQuizSettings s read (line :: rest) = readQuizSettings s' (read + 1) rest) ∨
          ∃ e, s.set key value = .error e ∧
            readQuizSettings s read (line :: rest) = .error e) := by
  by_cases hnil : trim line = []
  · exact Or.inl ⟨hnil, by simp [readQuizSettings, hnil]⟩
  · cases hsetting : readSetting? (trim line) with
    | none =>
      exact Or.inr (Or.inl ⟨endsSettings_of_readSetting hnil hsetting,
        by simp [readQuizSettings, hsetting]⟩)
    | some setting =>
      obtain ⟨key, value⟩ := setting
      refine Or.inr (Or.inr ⟨key, value, rfl, ?_⟩)
      cases hset : s.set key value with
      | ok s' => exact Or.inl ⟨s', rfl, by simp [readQuizSettings, hsetting, hset]⟩
      | error e => exact Or.inr ⟨e, rfl, by simp [readQuizSettings, hsetting, hset]⟩

theorem readQuizSettings_of_setting {s s' : QuizSettings} {read : Nat} {line key value : Text}
    {rest : List Text} (hline : readSetting? (trim line) = some (key, value))
    (hset : s.set key value = .ok s') :
    readQuizSettings s read (line :: rest) = readQuizSettings s' (read + 1) rest := by
  have hnil : trim line ≠ [] := by
    intro hnil
    rw [hnil] at hline
    exact absurd hline (by simp [readSetting?, cutFirst?])
  simp [readQuizSettings, hline, hset]

theorem readQuizSettings_of_ends {s : QuizSettings} {read : Nat} {line : Text} {rest : List Text}
    (h : endsSettings line = true) : readQuizSettings s read (line :: rest) = .ok (s, read) := by
  have hnil : trim line ≠ [] := by
    intro hnil
    simp [endsSettings, hnil] at h
  have hcolon : ':' ∉ line := by
    intro hmem
    simp [endsSettings, hmem] at h
  simp [readQuizSettings, readSetting?_trim_eq_none_iff.mpr hcolon]

theorem endsSettings_of_blank {line : Text} (h : trim line = []) : endsSettings line = false := by
  simp [endsSettings, h]

/-- The settings are the lines before the first one that ends them. -/
theorem read_of_readQuizSettings {s s' : QuizSettings} {read read' : Nat} {body : List Text}
    (h : readQuizSettings s read body = .ok (s', read')) :
    read' = read + body.findIdx endsSettings := by
  induction body generalizing s read with
  | nil =>
    cases h
    rfl
  | cons line rest ih =>
    rw [List.findIdx_cons]
    rcases readQuizSettings_cons s read line rest with
      ⟨hnil, hread⟩ | ⟨hends, hread⟩ | ⟨key, value, hsetting, ⟨s₁, -, hread⟩ | ⟨e, -, hread⟩⟩
    · rw [hread] at h
      rw [ih h, endsSettings_of_blank hnil, cond_false]
      omega
    · rw [hread] at h
      cases h
      rw [hends]
      rfl
    · rw [hread] at h
      rw [ih h, not_endsSettings_of_readSetting hsetting, cond_false]
      omega
    · rw [hread] at h
      exact absurd h (by simp)

/-- A line fails if it is reached and is a passing score that is too long. -/
theorem oversizedScore_iff {s : QuizSettings} {line key value : Text}
    (h : readSetting? (trim line) = some (key, value)) :
    OversizedScore line ↔ ∃ e, s.set key value = .error e := by
  constructor
  · rintro ⟨value', hline, hlong⟩
    rw [h] at hline
    cases hline
    exact ⟨_, set_eq_error_iff.mpr ⟨rfl, hlong, rfl⟩⟩
  · rintro ⟨e, he⟩
    obtain ⟨rfl, hlong, -⟩ := set_eq_error_iff.mp he
    exact ⟨value, h, hlong⟩

theorem not_oversizedScore_of_readSetting {line : Text} (h : readSetting? (trim line) = none) :
    ¬ OversizedScore line := by
  rintro ⟨value, hline, -⟩
  rw [h] at hline
  exact absurd hline (by simp)

/-- **Reading the settings fails exactly if one of them is a passing score that is too long.** -/
theorem exists_readQuizSettings_eq_error_iff {s : QuizSettings} {read : Nat} {body : List Text} :
    (∃ e, readQuizSettings s read body = .error e) ↔
      ∃ line ∈ body.take (body.findIdx endsSettings), OversizedScore line := by
  induction body generalizing s read with
  | nil => simp [readQuizSettings]
  | cons line rest ih =>
    rw [List.findIdx_cons]
    rcases readQuizSettings_cons s read line rest with
      ⟨hnil, hread⟩ | ⟨hends, hread⟩ | ⟨key, value, hsetting, hset⟩
    · -- a blank line is no setting
      have hline : ¬ OversizedScore line := by
        apply not_oversizedScore_of_readSetting
        rw [hnil]
        rfl
      rw [hread, ih, endsSettings_of_blank hnil, cond_false]
      simp [hline]
    · rw [hread, hends]
      simp
    · have hline := oversizedScore_iff (s := s) hsetting
      rw [not_endsSettings_of_readSetting hsetting, cond_false, List.take_succ_cons,
        List.exists_mem_cons_iff, hline]
      rcases hset with ⟨s₁, hset, hread⟩ | ⟨e, hset, hread⟩
      · rw [hread, ih, hset]
        simp
      · rw [hread, hset]
        simp

/-- The error of the settings tells a number of digits that is too large. -/
theorem digits_of_readQuizSettings {s : QuizSettings} {read : Nat} {body : List Text}
    {e : OversizedInteger} (h : readQuizSettings s read body = .error e) :
    maxIntegerDigits < e.digits := by
  induction body generalizing s read with
  | nil => exact absurd h (by simp [readQuizSettings])
  | cons line rest ih =>
    rcases readQuizSettings_cons s read line rest with
      ⟨-, hread⟩ | ⟨-, hread⟩ | ⟨key, value, -, ⟨s₁, -, hread⟩ | ⟨e', hset, hread⟩⟩
    · exact ih (hread ▸ h)
    · rw [hread] at h
      exact absurd h (by simp)
    · exact ih (hread ▸ h)
    · rw [hread] at h
      cases h
      obtain ⟨-, hlong, rfl⟩ := set_eq_error_iff.mp hset
      exact hlong

end Widgetry.Grammar
