import Widgetry.Proofs.FormRoundTrip

/-!
# Blanks at the ends of lines

Blanks at the end of a text make no token and change none, not even where a span is still open
(`tokenize_append_of_blank`): a token is trimmed when it ends, whatever ends it. The readers of
settings, tables and questions trim each line before they look at it, and a field of a form is a
block of its own, so none of them sees the blanks at the end of a line. Two texts that have the same
lines up to such blanks (`SameLines`) are read as the same block, or refused with the same error
(`readBlock_of_sameLines`).
-/

namespace Widgetry

open Text Outcome

/-! ## Tokens in front of blanks -/

namespace Scan

theorem flush_flush (s : Scan) : s.flush.flush = s.flush := by
  rw [current_flush s]
  rfl

/-- A blank that is taken into a token is trimmed when the token ends. -/
theorem flush_push_of_blank {c : Char} (hc : isBlank c = true) (s : Scan) :
    (s.push c).flush = s.flush := by
  have htrim : trim (s.push c).current.reverse = trim s.current.reverse := by
    rw [push, List.reverse_cons, trim_append_of_blank (by simpa [Blank] using hc)]
  unfold flush
  rw [htrim]
  rfl

/-- A blank is taken into the current token or, outside of spans, may end it. -/
theorem step_of_blank {c : Char} (hc : isBlank c = true) (s : Scan) :
    s.step c = s.push c ∨ (s.step c = s.flush ∧ s.span = .plain) := by
  have hquote : c ≠ '"' := by
    rintro rfl
    exact absurd hc (by decide)
  have hopen : c ≠ '[' := by
    rintro rfl
    exact absurd hc (by decide)
  have hclose : c ≠ ']' := by
    rintro rfl
    exact absurd hc (by decide)
  obtain ⟨tokens, current, span⟩ := s
  cases span with
  | plain =>
    by_cases hsep : c = ' ' ∨ c = '\n'
    · exact Or.inr ⟨by simp [step, hquote, hopen, hsep], rfl⟩
    · exact Or.inl (by simp [step, hquote, hopen, hsep])
  | quoted => exact Or.inl (by simp [step, hquote])
  | bracketed => exact Or.inl (by simp [step, hopen, hclose])

/-- **A blank leaves the tokens as they are**, inside spans and outside of them. -/
theorem flush_step_of_blank {c : Char} (hc : isBlank c = true) (s : Scan) :
    (s.step c).flush = s.flush := by
  rcases step_of_blank hc s with hstep | ⟨hstep, -⟩
  · rw [hstep, flush_push_of_blank hc]
  · rw [hstep, flush_flush]

theorem flush_foldl_of_blank {b : Text} (hb : Blank b) (s : Scan) :
    (b.foldl step s).flush = s.flush := by
  induction b generalizing s with
  | nil => rfl
  | cons c b ih =>
    rw [List.foldl_cons, ih fun d hd => hb d (List.mem_cons_of_mem c hd),
      flush_step_of_blank (hb c List.mem_cons_self)]

end Scan

open Scan

/-- **Blanks at the end of a text make no token and change none.** -/
theorem tokenize_append_of_blank {b : Text} (hb : Blank b) (t : Text) :
    tokenize (t ++ b) = tokenize t := by
  rw [tokenize, scan_append, flush_foldl_of_blank hb, tokenize]

namespace Grammar

/-! ## Readers of trimmed lines -/

theorem readQuizSettings_map_trim (s : QuizSettings) (read : Nat) (ls : List Text) :
    readQuizSettings s read (ls.map trim) = readQuizSettings s read ls := by
  induction ls generalizing s read with
  | nil => rfl
  | cons line ls ih => simp only [List.map_cons, readQuizSettings, trim_trim, ih]

theorem questionLine?_trim (line : Text) (number : Nat) :
    questionLine? (trim line) number = questionLine? line number := by
  simp only [questionLine?, trim_trim]

theorem filterMap_questionLine?_map_trim (ls : List Text) (number : Nat) :
    ((ls.map trim).zipIdx number).filterMap (fun x => questionLine? x.1 x.2) =
      (ls.zipIdx number).filterMap fun x => questionLine? x.1 x.2 := by
  rw [List.zipIdx_map, List.filterMap_map]
  simp only [Function.comp_def, Prod.map, questionLine?_trim, id_eq]

theorem readChartHeader_map_trim (h : ChartHeader) (table ls : List Text) :
    readChartHeader h (table.map trim) (ls.map trim) =
      (readChartHeader h table ls).map fun x => (x.1, x.2.map trim) := by
  induction ls generalizing h table with
  | nil => rfl
  | cons line ls ih =>
    simp only [List.map_cons, readChartHeader, trim_trim]
    split
    · exact ih h table
    · split
      · simp [Except.map]
      · split
        · exact ih _ ls
        · rfl

theorem readTable_map_trim (ls : List Text) : readTable (ls.map trim) = readTable ls := by
  cases ls with
  | nil => rfl
  | cons header rest =>
    have hinked : inked (rest.map trim) = inked rest := by
      rw [inked, List.map_map, inked]
      simp only [Function.comp_def, trim_trim]
    simp only [List.map_cons, readTable, trim_trim, hinked]

theorem readTable_congr {ls ls' : List Text} (h : ls.map trim = ls'.map trim) :
    readTable ls = readTable ls' := by
  rw [← readTable_map_trim, h, readTable_map_trim]

/-! ## Blocks -/

/-- A form is its first line and its fields. -/
theorem readForm_of_lineFields {s s' : Text}
    (hfirst : tokenize (lines s).1 = tokenize (lines s').1)
    (hfields : (lines s).2.filterMap lineField? = (lines s').2.filterMap lineField?) :
    readForm parseLine s = readForm parseLine s' := by
  cases hheader : (tokenize (lines s).1).tail with
  | nil =>
    have hheader' := hheader
    rw [hfirst] at hheader'
    simp only [readForm, hheader, hheader']
  | cons name rest =>
    have hheader' := hheader
    rw [hfirst] at hheader'
    rw [readForm_eq hheader, readForm_eq hheader', hfields]

/-- The texts have the same lines, up to blanks at the ends of the lines; of the first lines only the
tokens must be the same. -/
structure SameLines (s s' : Text) : Prop where
  first : tokenize (lines s).1 = tokenize (lines s').1
  body : (lines s).2.map trimEnd = (lines s').2.map trimEnd

section Blocks

variable {s s' : Text} (h : SameLines s s')
include h

theorem SameLines.map_trim : (lines s).2.map trim = (lines s').2.map trim := by
  have hbody := congrArg (List.map trim) h.body
  simpa only [List.map_map, Function.comp_def, trim_trimEnd] using hbody

theorem readForm_of_sameLines : readForm parseLine s = readForm parseLine s' := by
  have hends : ∀ ls : List Text, (ls.map trimEnd).filterMap lineField? = ls.filterMap lineField? := by
    intro ls
    rw [List.filterMap_map]
    exact List.filterMap_congr fun line _ => lineField?_trimEnd line
  have hfields : (lines s).2.filterMap lineField? = (lines s').2.filterMap lineField? := by
    rw [← hends (lines s).2, h.body, hends]
  exact readForm_of_lineFields h.first hfields

theorem readQuiz_of_sameLines : readQuiz s = readQuiz s' := by
  have hsettings : ∀ (q : QuizSettings) n,
      readQuizSettings q n (lines s).2 = readQuizSettings q n (lines s').2 := by
    intro q n
    rw [← readQuizSettings_map_trim, h.map_trim, readQuizSettings_map_trim]
  have hquestions : ∀ read number,
      (((lines s).2.drop read).zipIdx number).filterMap (fun x => questionLine? x.1 x.2) =
        (((lines s').2.drop read).zipIdx number).filterMap fun x => questionLine? x.1 x.2 := by
    intro read number
    rw [← filterMap_questionLine?_map_trim, List.map_drop, h.map_trim, ← List.map_drop,
      filterMap_questionLine?_map_trim]
  simp only [readQuiz, h.first, hsettings, hquestions]

theorem readChart_of_sameLines (kind : ChartKind) : readChart kind s = readChart kind s' := by
  have htrim := h.map_trim
  have hnil : (lines s).2 = [] ↔ (lines s').2 = [] := by
    rw [← List.map_eq_nil_iff (f := trim), htrim, List.map_eq_nil_iff]
  have hchart : ∀ (header : ChartHeader) (ls ls' : List Text), ls.map trim = ls'.map trim →
      (readTable ls >>= fun table => (pure ⟨kind, header.id, header.title, header.height,
        table.labels, table.datasets, none⟩ : Except ParseError Chart)) =
      readTable ls' >>= fun table => pure ⟨kind, header.id, header.title, header.height,
        table.labels, table.datasets, none⟩ := by
    intro header ls ls' hls
    rw [readTable_congr hls]
  by_cases hbody : (lines s).2 = []
  · simp only [readChart, hbody, hnil.mp hbody, if_true]
    rfl
  simp only [readChart, if_neg hbody, if_neg fun hbody' => hbody (hnil.mpr hbody'), h.first]
  cases (tokenize (lines s').1).tail with
  | cons id rest => exact hchart ⟨some id, rest[0]?, none⟩ _ _ htrim
  | nil =>
    -- the settings are the same, and so are the lines of the table, up to blanks at their ends
    have hheader := readChartHeader_map_trim ⟨none, none, none⟩ (lines s).2 (lines s).2
    rw [htrim, readChartHeader_map_trim] at hheader
    dsimp only
    cases hread : readChartHeader ⟨none, none, none⟩ (lines s).2 (lines s).2 with
    | error e =>
      rw [hread] at hheader
      rw [map_eq_error_iff.mp hheader]
    | ok x =>
      obtain ⟨header, table⟩ := x
      rw [hread] at hheader
      obtain ⟨⟨header', table'⟩, hread', hsame⟩ := map_eq_ok_iff.mp hheader
      obtain ⟨rfl, htable⟩ := Prod.mk.inj hsame
      rw [hread']
      exact hchart header' table table' htable.symm

/-- **A block of several lines is read line by line, without the blanks at the ends of the lines**,
whatever comes of it. -/
theorem readBlock_of_sameLines {k : Keyword} (hk : k.hasOneLine = false)
    (parts parts' : List Text) :
    readBlock parseLine k parts s = readBlock parseLine k parts' s' := by
  cases k with
  | form => exact readForm_of_sameLines h
  | chart kind => exact congrArg (Except.map Widget.chart) (readChart_of_sameLines h kind)
  | quiz => exact congrArg (Except.map Widget.quiz) (readQuiz_of_sameLines h)
  | _ => exact absurd hk (by decide)

end Blocks

end Grammar

end Widgetry
