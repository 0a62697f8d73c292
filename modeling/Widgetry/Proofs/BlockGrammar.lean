import Widgetry.Grammar.Block
import Widgetry.Proofs.LineGrammar

/-!
# What the grammars of several lines accept

For forms, charts and quizzes, what their blocks consist of: a first line, and below it the fields,
the settings and the table, or the settings and the questions.
-/

namespace Widgetry.Grammar

open Text Outcome

/-! ## Forms -/

theorem readForm_eq_ok_iff {child : Text → Except ParseError Widget} {source : Text} {w : Widget} :
    readForm child source = .ok w ↔
      ∃ id rest, (tokenize (lines source).1).tail = id :: rest ∧
        w = .form id rest[0]? ((lines source).2.filterMap fun line =>
          (fieldText? line).bind fun field => (child field).toOption) := by
  unfold readForm
  dsimp only
  split
  · rename_i id rest hheader
    simp [hheader, eq_comm]
  · rename_i hheader
    simp [hheader]

/-! ## Charts -/

/-- What stands above the table of a chart, and the lines of the table: an id and perhaps a title on
the first line, or settings below it. -/
def ChartHead (source : Text) (header : ChartHeader) (table : List Text) : Prop :=
  (∃ id rest, (tokenize (lines source).1).tail = id :: rest ∧
      header = ⟨some id, rest[0]?, none⟩ ∧ table = (lines source).2) ∨
    ((tokenize (lines source).1).tail = [] ∧
      readChartHeader ⟨none, none, none⟩ (lines source).2 (lines source).2 = .ok (header, table))

theorem readChart_eq_ok_iff {kind : ChartKind} {source : Text} {c : Chart} :
    readChart kind source = .ok c ↔
      (lines source).2 ≠ [] ∧ ∃ header ls table, ChartHead source header ls ∧
        readTable ls = .ok table ∧
        c = ⟨kind, header.id, header.title, header.height, table.labels, table.datasets, none⟩ := by
  constructor
  · intro h
    simp only [readChart] at h
    split at h
    · obtain ⟨_, habort, -⟩ := bind_eq_ok_iff.mp h
      exact absurd habort throw_ne_ok
    · rename_i hbody
      refine ⟨hbody, ?_⟩
      split at h
      · rename_i id rest hheader
        obtain ⟨⟨header, ls⟩, hhead, h⟩ := bind_eq_ok_iff.mp h
        obtain ⟨rfl, rfl⟩ := Prod.mk.inj (pure_eq_ok_iff.mp hhead)
        obtain ⟨table, htable, h⟩ := bind_eq_ok_iff.mp h
        exact ⟨_, _, table, Or.inl ⟨id, rest, hheader, rfl, rfl⟩, htable,
          (pure_eq_ok_iff.mp h).symm⟩
      · rename_i hheader
        obtain ⟨⟨header, ls⟩, hhead, h⟩ := bind_eq_ok_iff.mp h
        obtain ⟨table, htable, h⟩ := bind_eq_ok_iff.mp h
        exact ⟨header, ls, table, Or.inr ⟨hheader, mapError_eq_ok_iff.mp hhead⟩, htable,
          (pure_eq_ok_iff.mp h).symm⟩
  · rintro ⟨hbody, header, ls, table, hhead, htable, rfl⟩
    simp only [readChart, if_neg hbody]
    rcases hhead with ⟨id, rest, hheader, rfl, rfl⟩ | ⟨hheader, hsettings⟩
    · simp only [hheader]
      exact bind_eq_ok_iff.mpr ⟨_, rfl, bind_eq_ok_iff.mpr ⟨table, htable, rfl⟩⟩
    · simp only [hheader]
      exact bind_eq_ok_iff.mpr ⟨(header, ls), mapError_eq_ok_iff.mpr hsettings,
        bind_eq_ok_iff.mpr ⟨table, htable, rfl⟩⟩

/-! ## Quizzes -/

/-- The question lines of a quiz: those below its settings that have tokens, with their numbers. -/
def questionLines (source : Text) (read : Nat) : List QuestionLine :=
  (((lines source).2.drop read).zipIdx (read + 2)).filterMap fun x => questionLine? x.1 x.2

theorem readQuiz_eq_ok_iff {source : Text} {q : Quiz} :
    readQuiz source = .ok q ↔
      ∃ id title rest settings read questions,
        (tokenize (lines source).1).tail = id :: title :: rest ∧
        readQuizSettings .unstated 0 (lines source).2 = .ok (settings, read) ∧
        (questionLines source read).mapM (fun l => readQuestion l.number l.word l.parts) =
          .ok questions ∧
        questions ≠ [] ∧ q = { settings.applyTo (emptyQuiz id title) with questions } := by
  constructor
  · intro h
    simp only [readQuiz] at h
    split at h
    · rename_i id title rest hheader
      obtain ⟨⟨settings, read⟩, hsettings, h⟩ := bind_eq_ok_iff.mp h
      obtain ⟨questions, hquestions, h⟩ := bind_eq_ok_iff.mp h
      split at h
      · obtain ⟨_, habort, -⟩ := bind_eq_ok_iff.mp h
        exact absurd habort throw_ne_ok
      · rename_i hne
        exact ⟨id, title, rest, settings, read, questions, hheader,
          mapError_eq_ok_iff.mp hsettings, hquestions, hne, (pure_eq_ok_iff.mp h).symm⟩
    · exact absurd h (by simp)
  · rintro ⟨id, title, rest, settings, read, questions, hheader, hsettings, hquestions, hne, rfl⟩
    simp only [readQuiz, hheader]
    refine bind_eq_ok_iff.mpr ⟨(settings, read), mapError_eq_ok_iff.mpr hsettings, ?_⟩
    refine bind_eq_ok_iff.mpr ⟨questions, hquestions, ?_⟩
    rw [if_neg hne]
    rfl

theorem tokenize_of_mem_questionLines {source : Text} {read : Nat} {l : QuestionLine}
    (h : l ∈ questionLines source read) :
    ∃ line ∈ (lines source).2.drop read, tokenize (trim line) = l.word :: l.parts := by
  obtain ⟨⟨line, number⟩, hmem, hline⟩ := List.mem_filterMap.mp h
  refine ⟨line, List.fst_mem_of_mem_zipIdx hmem, ?_⟩
  unfold questionLine? at hline
  split at hline
  · exact absurd hline (by simp)
  · rename_i word parts htokens
    rw [← Option.some.inj hline]
    exact htokens

end Widgetry.Grammar
