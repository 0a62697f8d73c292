import Widgetry.Grammar.Quiz
import Widgetry.Proofs.Outcome

/-!
# What the grammars of one line accept

For each widget of one line and each question of a quiz, which parts are accepted and what they make.
The readers are used through these equivalences in both directions: to tell what a widget that has
been read came from, and to read a line that has been written.
-/

namespace Widgetry.Grammar

open Outcome

/-! ## Parts -/

theorem readArray_eq_ok_iff {place : ArrayPlace} {token : Text} {xs : List Text} :
    readArray place token = .ok xs ↔ ArrayLiteral.parse token = .ok xs := by
  unfold readArray
  split
  · rename_i h
    rw [h]
    simp
  · rename_i h
    rw [h]
    simp

theorem readSelection_eq_ok_iff {token : Text} {s : Selection} :
    readSelection token = .ok s ↔
      (opensArray token = true ∧ ∃ xs, ArrayLiteral.parse token = .ok xs ∧ .many xs = s) ∨
        (opensArray token = false ∧ .one token = s) := by
  unfold readSelection
  split
  · rename_i h
    simp [h, map_eq_ok_iff, readArray_eq_ok_iff]
  · rename_i h
    simp [h]

/-! ## Inputs -/

theorem readTextInput_eq_ok_iff {parts : List Text} {w : TextInput} :
    readTextInput parts = .ok w ↔
      ∃ id rest, parts = id :: rest ∧ w = ⟨some id, rest[0]?, rest[1]?, rest[2]?⟩ := by
  unfold readTextInput
  split
  · simp [eq_comm]
  · simp

theorem readChoiceInput_eq_ok_iff {k : Keyword} {parts : List Text} {w : ChoiceInput} :
    readChoiceInput k parts = .ok w ↔
      ∃ id array rest choices, parts = id :: array :: rest ∧
        ArrayLiteral.parse array = .ok choices ∧ w = ⟨some id, none, choices, rest[0]?⟩ := by
  constructor
  · intro h
    unfold readChoiceInput at h
    split at h
    · rename_i id array rest
      obtain ⟨choices, hchoices, h⟩ := bind_eq_ok_iff.mp h
      exact ⟨id, array, rest, choices, rfl, readArray_eq_ok_iff.mp hchoices,
        (pure_eq_ok_iff.mp h).symm⟩
    · exact absurd h (by simp)
  · rintro ⟨id, array, rest, choices, rfl, hchoices, rfl⟩
    exact bind_eq_ok_iff.mpr ⟨choices, readArray_eq_ok_iff.mpr hchoices, rfl⟩

/-- The initial selection that the parts after the choices make. -/
def SelectionOf (rest : List Text) (initial : Option Selection) : Prop :=
  (rest = [] ∧ initial = none) ∨
    ∃ token more s, rest = token :: more ∧ readSelection token = .ok s ∧ initial = some s

theorem readMultiSelect_eq_ok_iff {parts : List Text} {w : MultiSelect} :
    readMultiSelect parts = .ok w ↔
      ∃ id array rest choices initial, parts = id :: array :: rest ∧
        ArrayLiteral.parse array = .ok choices ∧ SelectionOf rest initial ∧
        w = ⟨some id, none, choices, initial⟩ := by
  constructor
  · intro h
    unfold readMultiSelect at h
    split at h
    · rename_i id array rest
      obtain ⟨choices, hchoices, h⟩ := bind_eq_ok_iff.mp h
      have hchoices := readArray_eq_ok_iff.mp hchoices
      cases rest with
      | nil =>
        exact ⟨id, array, [], choices, none, rfl, hchoices, Or.inl ⟨rfl, rfl⟩,
          (pure_eq_ok_iff.mp h).symm⟩
      | cons token more =>
        obtain ⟨s, hs, h⟩ := bind_eq_ok_iff.mp h
        exact ⟨id, array, token :: more, choices, some s, rfl, hchoices,
          Or.inr ⟨token, more, s, rfl, hs, rfl⟩, (pure_eq_ok_iff.mp h).symm⟩
    · exact absurd h (by simp)
  · rintro ⟨id, array, rest, choices, initial, rfl, hchoices, hinitial, rfl⟩
    refine bind_eq_ok_iff.mpr ⟨choices, readArray_eq_ok_iff.mpr hchoices, ?_⟩
    rcases hinitial with ⟨rfl, rfl⟩ | ⟨token, more, s, rfl, hs, rfl⟩
    · rfl
    · exact bind_eq_ok_iff.mpr ⟨s, hs, rfl⟩

theorem readSlider_eq_ok_iff {parts : List Text} {w : Slider} :
    readSlider parts = .ok w ↔
      ∃ id a b c rest min max step, parts = id :: a :: b :: c :: rest ∧
        Number.read? a = some min ∧ Number.read? b = some max ∧ Number.read? c = some step ∧
        w = ⟨some id, none, min, max, step, rest[0]?.bind Number.read?⟩ := by
  constructor
  · intro h
    unfold readSlider at h
    split at h
    · rename_i id a b c rest
      split at h
      · rename_i min max step hmin hmax hstep
        exact ⟨id, a, b, c, rest, min, max, step, rfl, hmin, hmax, hstep, (Except.ok.inj h).symm⟩
      · exact absurd h (by simp)
    · exact absurd h (by simp)
  · rintro ⟨id, a, b, c, rest, min, max, step, rfl, hmin, hmax, hstep, rfl⟩
    simp only [readSlider, hmin, hmax, hstep]

/-! ## Questions of their own -/

theorem readMultipleChoice_eq_ok_iff {parts : List Text} {w : MultipleChoice} :
    readMultipleChoice parts = .ok w ↔
      ∃ id question array rest choices, parts = id :: question :: array :: rest ∧
        ArrayLiteral.parse array = .ok choices ∧
        w = ⟨some id, question, choices, rest[0]?, rest[1]?.map Text.isTrue⟩ := by
  constructor
  · intro h
    unfold readMultipleChoice at h
    split at h
    · rename_i id question array rest
      obtain ⟨choices, hchoices, h⟩ := bind_eq_ok_iff.mp h
      exact ⟨id, question, array, rest, choices, rfl, readArray_eq_ok_iff.mp hchoices,
        (pure_eq_ok_iff.mp h).symm⟩
    · exact absurd h (by simp)
  · rintro ⟨id, question, array, rest, choices, rfl, hchoices, rfl⟩
    exact bind_eq_ok_iff.mpr ⟨choices, readArray_eq_ok_iff.mpr hchoices, rfl⟩

/-- The single answer and the list of answers that a part makes. -/
def AnswersOf (part : Option Text) (single : Option Text) (several : Option (List Text)) : Prop :=
  (part = none ∧ single = none ∧ several = none) ∨
    (∃ token xs, part = some token ∧ opensArray token = true ∧
      ArrayLiteral.parse token = .ok xs ∧ single = none ∧ several = some xs) ∨
    ∃ token, part = some token ∧ opensArray token = false ∧ single = some token ∧ several = none

/-- The answers that a part makes: one text or an array of texts. -/
def readAnswers (place : ArrayPlace) :
    Option Text → Except ParseError (Option Text × Option (List Text))
  | none => .ok (none, none)
  | some token =>
    if opensArray token then (readArray place token).map (none, some ·) else .ok (some token, none)

theorem readAnswers_eq_ok_iff {place : ArrayPlace} {part single : Option Text}
    {several : Option (List Text)} :
    readAnswers place part = .ok (single, several) ↔ AnswersOf part single several := by
  constructor
  · intro h
    cases part with
    | none =>
      obtain ⟨rfl, rfl⟩ := Prod.mk.inj (Except.ok.inj h)
      exact Or.inl ⟨rfl, rfl, rfl⟩
    | some token =>
      rw [readAnswers] at h
      split at h
      · rename_i hopens
        obtain ⟨xs, hxs, h⟩ := map_eq_ok_iff.mp h
        obtain ⟨rfl, rfl⟩ := Prod.mk.inj h
        exact Or.inr (Or.inl ⟨token, xs, rfl, hopens, readArray_eq_ok_iff.mp hxs, rfl, rfl⟩)
      · rename_i hopens
        obtain ⟨rfl, rfl⟩ := Prod.mk.inj (Except.ok.inj h)
        exact Or.inr (Or.inr ⟨token, rfl, by simpa using hopens, rfl, rfl⟩)
  · rintro (⟨rfl, rfl, rfl⟩ | ⟨token, xs, rfl, hopens, hxs, rfl, rfl⟩ |
      ⟨token, rfl, hopens, rfl, rfl⟩)
    · rfl
    · rw [readAnswers, if_pos hopens]
      exact map_eq_ok_iff.mpr ⟨xs, readArray_eq_ok_iff.mpr hxs, rfl⟩
    · rw [readAnswers, if_neg (by simp [hopens])]

theorem readShortAnswer_cons_cons (id question : Text) (rest : List Text) :
    readShortAnswer (id :: question :: rest) =
      (readAnswers .answers rest[1]?).map fun x =>
        ⟨some id, question, rest[0]?, x.1, x.2, rest[2]?.map Text.isTrue⟩ := by
  rw [readShortAnswer]
  cases rest[1]? with
  | none => rfl
  | some token =>
    simp only [readAnswers]
    split
    · cases readArray .answers token <;> rfl
    · rfl

theorem readShortAnswer_eq_ok_iff {parts : List Text} {w : ShortAnswer} :
    readShortAnswer parts = .ok w ↔
      ∃ id question rest single several, parts = id :: question :: rest ∧
        AnswersOf rest[1]? single several ∧
        w = ⟨some id, question, rest[0]?, single, several, rest[2]?.map Text.isTrue⟩ := by
  constructor
  · intro h
    rcases parts with _ | ⟨id, _ | ⟨question, rest⟩⟩
    · exact absurd h (by simp [readShortAnswer])
    · exact absurd h (by simp [readShortAnswer])
    · rw [readShortAnswer_cons_cons] at h
      obtain ⟨⟨single, several⟩, hanswers, h⟩ := map_eq_ok_iff.mp h
      exact ⟨id, question, rest, single, several, rfl, readAnswers_eq_ok_iff.mp hanswers, h.symm⟩
  · rintro ⟨id, question, rest, single, several, rfl, hanswers, rfl⟩
    rw [readShortAnswer_cons_cons]
    exact map_eq_ok_iff.mpr ⟨(single, several), readAnswers_eq_ok_iff.mpr hanswers, rfl⟩

/-! ## Questions of a quiz -/

theorem readPoints_eq_ok_iff {line points : Int} {token : Text} :
    readPoints line token = .ok points ↔ readInteger token = .ok (some points) := by
  unfold readPoints
  split
  · rename_i h
    simp [h]
  · rename_i h
    simp [h]
  · rename_i h
    simp [h]

theorem readChoiceQuestion_eq_ok_iff {line : Int} {parts : List Text} {q : ChoiceQuestion} :
    readChoiceQuestion line parts = .ok q ↔
      ∃ id question token array rest points choices,
        parts = id :: question :: token :: array :: rest ∧
        readPoints line token = .ok points ∧ ArrayLiteral.parse array = .ok choices ∧
        q = ⟨id, question, points, choices, rest[0]?, none⟩ := by
  constructor
  · intro h
    unfold readChoiceQuestion at h
    split at h
    · rename_i id question token array rest
      obtain ⟨points, hpoints, h⟩ := bind_eq_ok_iff.mp h
      obtain ⟨choices, hchoices, h⟩ := bind_eq_ok_iff.mp h
      exact ⟨id, question, token, array, rest, points, choices, rfl, hpoints,
        readArray_eq_ok_iff.mp hchoices, (pure_eq_ok_iff.mp h).symm⟩
    · exact absurd h (by simp)
  · rintro ⟨id, question, token, array, rest, points, choices, rfl, hpoints, hchoices, rfl⟩
    exact bind_eq_ok_iff.mpr ⟨points, hpoints,
      bind_eq_ok_iff.mpr ⟨choices, readArray_eq_ok_iff.mpr hchoices, rfl⟩⟩

/-- A single answer is a list of one. -/
theorem readWrittenQuestion_cons (line : Int) (id question token : Text) (rest : List Text) :
    readWrittenQuestion line (id :: question :: token :: rest) =
      readPoints line token >>= fun points =>
        (readAnswers (.questionAnswers line) rest[1]?).map fun x =>
          ⟨id, question, points, rest[0]?, x.2 <|> x.1.map ([·]), none⟩ := by
  rw [readWrittenQuestion]
  congr 1
  funext points
  cases rest[1]? with
  | none => rfl
  | some answer =>
    simp only [readAnswers]
    split
    · cases readArray (.questionAnswers line) answer <;> rfl
    · rfl

theorem readWrittenQuestion_eq_ok_iff {line : Int} {parts : List Text} {q : WrittenQuestion} :
    readWrittenQuestion line parts = .ok q ↔
      ∃ id question token rest points single several,
        parts = id :: question :: token :: rest ∧
        readPoints line token = .ok points ∧ AnswersOf rest[1]? single several ∧
        q = ⟨id, question, points, rest[0]?, several <|> single.map ([·]), none⟩ := by
  constructor
  · intro h
    rcases parts with _ | ⟨id, _ | ⟨question, _ | ⟨token, rest⟩⟩⟩
    · exact absurd h (by simp [readWrittenQuestion])
    · exact absurd h (by simp [readWrittenQuestion])
    · exact absurd h (by simp [readWrittenQuestion])
    · rw [readWrittenQuestion_cons] at h
      obtain ⟨points, hpoints, h⟩ := bind_eq_ok_iff.mp h
      obtain ⟨⟨single, several⟩, hanswers, h⟩ := map_eq_ok_iff.mp h
      exact ⟨id, question, token, rest, points, single, several, rfl, hpoints,
        readAnswers_eq_ok_iff.mp hanswers, h.symm⟩
  · rintro ⟨id, question, token, rest, points, single, several, rfl, hpoints, hanswers, rfl⟩
    rw [readWrittenQuestion_cons]
    exact bind_eq_ok_iff.mpr ⟨points, hpoints,
      map_eq_ok_iff.mpr ⟨(single, several), readAnswers_eq_ok_iff.mpr hanswers, rfl⟩⟩

theorem readQuestion_eq_ok_iff {line : Int} {word : Text} {parts : List Text} {q : Question} :
    readQuestion line word parts = .ok q ↔
      (∃ w, word = QuestionKind.choice.text ∧ readChoiceQuestion line parts = .ok w ∧
          q = .choice w) ∨
        ∃ w, word = QuestionKind.written.text ∧ readWrittenQuestion line parts = .ok w ∧
          q = .written w := by
  constructor
  · intro h
    unfold readQuestion at h
    split at h
    · rename_i hkind
      obtain ⟨w, hw, hq⟩ := map_eq_ok_iff.mp h
      exact Or.inl ⟨w, QuestionKind.ofText?_eq_some_iff.mp hkind, hw, hq.symm⟩
    · rename_i hkind
      obtain ⟨w, hw, hq⟩ := map_eq_ok_iff.mp h
      exact Or.inr ⟨w, QuestionKind.ofText?_eq_some_iff.mp hkind, hw, hq.symm⟩
    · exact absurd h (by simp)
  · rintro (⟨w, rfl, hw, rfl⟩ | ⟨w, rfl, hw, rfl⟩)
    · rw [readQuestion, QuestionKind.ofText?_text]
      exact map_eq_ok_iff.mpr ⟨w, hw, rfl⟩
    · rw [readQuestion, QuestionKind.ofText?_text]
      exact map_eq_ok_iff.mpr ⟨w, hw, rfl⟩

end Widgetry.Grammar
