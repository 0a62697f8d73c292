import Widgetry.Proofs.LineEnds

/-!
# Line feeds with carriage returns in front of them

Lines end at line feeds alone, so where a text comes with a carriage return in front of every line
feed, the return stands at the end of a line, or inside a span that goes on over several lines. The
tokens of the text are those of the text without returns, with the returns inside
(`tokenize_crlf`), and the first token of a block is still its keyword. All else that forms, charts
and quizzes read are lines without the blanks at their ends, and these stay the same
(`sameLines_crlf`). So it does not matter how the lines of such a block end (`parseBlock_crlf`).
-/

namespace Widgetry

open Text

namespace Text

/-! ## Texts with carriage returns -/

/-- The text with a carriage return in front of every line feed. -/
def crlf (t : Text) : Text := t.flatMap fun c => if c = '\n' then ['\r', '\n'] else [c]

@[simp] theorem crlf_nil : crlf [] = [] := rfl

theorem crlf_append (a b : Text) : crlf (a ++ b) = crlf a ++ crlf b := List.flatMap_append

theorem crlf_line_feed : crlf ['\n'] = ['\r', '\n'] := rfl

theorem crlf_singleton {c : Char} (hc : c ≠ '\n') : crlf [c] = [c] := by
  simp [crlf, hc]

theorem crlf_cons (c : Char) (t : Text) : crlf (c :: t) = crlf [c] ++ crlf t := crlf_append [c] t

/-- A text of one line stays as it is. -/
theorem crlf_of_not_mem {t : Text} (h : '\n' ∉ t) : crlf t = t := by
  induction t with
  | nil => rfl
  | cons c t ih =>
    rw [List.mem_cons, not_or] at h
    rw [crlf_cons, crlf_singleton (Ne.symm h.1), ih h.2]
    rfl

theorem blank_crlf {t : Text} (h : Blank t) : Blank (crlf t) := by
  intro c hc
  obtain ⟨d, hd, hcd⟩ := List.mem_flatMap.mp hc
  split at hcd
  · rcases List.mem_cons.mp hcd with rfl | hcd
    · rfl
    · rw [List.mem_singleton.mp hcd]
      rfl
  · rw [List.mem_singleton.mp hcd]
    exact h d hd

theorem trimmed_crlf {t : Text} (h : Trimmed t) : Trimmed (crlf t) := by
  -- the ends of the text are no line feeds, so they stay its ends
  have hink : ∀ c, isBlank c = false → c ≠ '\n' := by
    rintro c hc rfl
    exact absurd hc (by decide)
  constructor
  · cases t with
    | nil => simp
    | cons c t =>
      have hc := h.front c rfl
      rw [crlf_cons, crlf_singleton (hink c hc)]
      simpa using hc
  · rcases List.eq_nil_or_concat' t with rfl | ⟨t, c, rfl⟩
    · simp
    · have hc := h.back c (by simp)
      rw [crlf_append, crlf_singleton (hink c hc)]
      simpa using hc

/-- **Trimming does not see the returns.** -/
theorem trim_crlf (t : Text) : trim (crlf t) = crlf (trim t) := by
  obtain ⟨a, b, ha, hb, ht⟩ := exists_frame t
  conv_lhs => rw [ht, crlf_append, crlf_append]
  exact trim_frame (blank_crlf ha) (blank_crlf hb) (trimmed_crlf (trimmed_trim t))

theorem crlf_eq_nil_iff {t : Text} : crlf t = [] ↔ t = [] := by
  constructor
  · intro h
    cases t with
    | nil => rfl
    | cons c t =>
      rw [crlf_cons, List.append_eq_nil_iff] at h
      by_cases hc : c = '\n'
      · rw [hc] at h
        exact absurd h.1 (by decide)
      · rw [crlf_singleton hc] at h
        exact absurd h.1 (by simp)
  · rintro rfl
    rfl

/-- **The lines are the same**, but for blanks at their ends. -/
theorem lines_crlf (t : Text) :
    ∃ b, Blank b ∧ (lines (crlf t)).1 = (lines t).1 ++ b ∧
      (lines (crlf t)).2.map trimEnd = (lines t).2.map trimEnd := by
  induction t with
  | nil => exact ⟨[], by simp [Blank], rfl, rfl⟩
  | cons c t ih =>
    obtain ⟨b, hb, hfirst, hrest⟩ := ih
    by_cases hc : c = '\n'
    · subst hc
      refine ⟨['\r'], by decide, ?_⟩
      have hlines : lines (crlf ('\n' :: t)) =
          (['\r'], (lines (crlf t)).1 :: (lines (crlf t)).2) := by
        rw [crlf_cons, crlf_line_feed]
        rfl
      have hlines' : lines ('\n' :: t) = ([], (lines t).1 :: (lines t).2) := rfl
      rw [hlines, hlines', hfirst, List.map_cons, List.map_cons, trimEnd_append_of_blank hb, hrest]
      exact ⟨rfl, rfl⟩
    · have hcut : ∀ u : Text, lines (c :: u) = (c :: (lines u).1, (lines u).2) :=
        fun u => cut_cons_of_neg u (by simp [hc])
      refine ⟨b, hb, ?_⟩
      rw [crlf_cons, crlf_singleton hc, List.singleton_append, hcut, hcut, hfirst]
      exact ⟨rfl, hrest⟩

end Text

/-! ## Tokens -/

namespace Scan

/-- The scanner has read the same text with carriage returns. -/
structure Returned (s s' : Scan) : Prop where
  tokens : s'.tokens = s.tokens.map crlf
  current : s'.current.reverse = crlf s.current.reverse
  span : s'.span = s.span

section Returned

variable {s s' : Scan} (h : Returned s s')
include h

theorem returned_enter (span : Span) : Returned (s.enter span) (s'.enter span) :=
  ⟨h.tokens, h.current, rfl⟩

theorem returned_push {c : Char} (hc : c ≠ '\n') : Returned (s.push c) (s'.push c) := by
  refine ⟨h.tokens, ?_, h.span⟩
  rw [push, push, List.reverse_cons, List.reverse_cons, h.current, crlf_append, crlf_singleton hc]

/-- A line feed that is taken into a token comes with its return. -/
theorem returned_push_line_feed : Returned (s.push '\n') ((s'.push '\r').push '\n') := by
  refine ⟨h.tokens, ?_, h.span⟩
  simp only [push, List.reverse_cons, h.current, crlf_append, crlf_line_feed, List.append_assoc,
    List.singleton_append]

theorem returned_flush : Returned s.flush s'.flush := by
  have htrim : trim s'.current.reverse = crlf (trim s.current.reverse) := by
    rw [h.current, trim_crlf]
  rcases flush_cases s with ⟨hnil, hflush⟩ | ⟨hne, hflush⟩
  · rcases flush_cases s' with ⟨-, hflush'⟩ | ⟨hne', -⟩
    · rw [hflush, hflush']
      exact ⟨h.tokens, rfl, h.span⟩
    · rw [htrim, hnil] at hne'
      exact absurd rfl hne'
  · rcases flush_cases s' with ⟨hnil', -⟩ | ⟨-, hflush'⟩
    · rw [htrim, crlf_eq_nil_iff] at hnil'
      exact absurd hnil' hne
    · rw [hflush, hflush', htrim]
      exact ⟨by simp [h.tokens], rfl, h.span⟩

theorem returned_closeBracket : Returned s.closeBracket s'.closeBracket := by
  refine ⟨?_, rfl, rfl⟩
  have harray : crlf ('[' :: trim s.current.reverse ++ [']']) =
      '[' :: crlf (trim s.current.reverse) ++ [']'] := by
    rw [crlf_append, crlf_cons, crlf_singleton (by decide), crlf_singleton (by decide)]
    rfl
  simp only [closeBracket, List.map_cons, harray, h.current, trim_crlf, h.tokens]

/-- **A line feed, and a line feed with its return.** Outside of spans the return is trimmed from the
token that the line feed ends; inside, both are taken into the token. -/
theorem returned_step_line_feed : Returned (s.step '\n') ((s'.step '\r').step '\n') := by
  obtain ⟨tokens, current, span⟩ := s
  obtain ⟨tokens', current', span'⟩ := s'
  obtain rfl : span = span' := h.span.symm
  cases span with
  | plain =>
    have hflush : flush (push ⟨tokens', current', .plain⟩ '\r') = flush ⟨tokens', current', .plain⟩ :=
      flush_push_of_blank (by decide) _
    have hreturned := returned_flush h
    rw [← hflush] at hreturned
    exact hreturned
  | quoted => exact returned_push_line_feed h
  | bracketed => exact returned_push_line_feed h

theorem returned_step_of_ne {c : Char} (hc : c ≠ '\n') : Returned (s.step c) (s'.step c) := by
  rcases step_alike h.span c with
    ⟨span, ⟨hs, hs'⟩, -⟩ | ⟨hs, hs'⟩ | ⟨⟨hs, hs'⟩, -⟩ | ⟨⟨hs, hs'⟩, -⟩
  · rw [hs, hs']
    exact returned_enter h span
  · rw [hs, hs']
    exact returned_push h hc
  · rw [hs, hs']
    exact returned_flush h
  · rw [hs, hs']
    exact returned_closeBracket h

theorem returned_foldl (t : Text) : Returned (t.foldl step s) ((crlf t).foldl step s') := by
  induction t generalizing s s' with
  | nil => exact h
  | cons c t ih =>
    rw [List.foldl_cons, crlf_cons, List.foldl_append]
    by_cases hc : c = '\n'
    · subst hc
      exact ih (returned_step_line_feed h)
    · rw [crlf_singleton hc]
      exact ih (returned_step_of_ne h hc)

end Returned

end Scan

open Scan

/-- **The tokens are the same, with the returns inside.** -/
theorem tokenize_crlf (t : Text) : tokenize (crlf t) = (tokenize t).map crlf := by
  have hscan : Returned (scan t) (scan (crlf t)) := returned_foldl ⟨rfl, rfl, rfl⟩ t
  rw [tokenize, (returned_flush hscan).tokens, tokenize, List.map_reverse]

namespace Grammar

/-! ## Blocks -/

theorem sameLines_crlf (t : Text) : SameLines (crlf t) t := by
  obtain ⟨b, hb, hfirst, hbody⟩ := lines_crlf t
  exact ⟨by rw [hfirst, tokenize_append_of_blank hb], hbody⟩

end Grammar

open Grammar

/-- **It does not matter how the lines of a block end**, with a line feed or with a carriage return
and a line feed, if the block has several lines: the same widget is read, or the same error is
reported. -/
theorem parseBlock_crlf {t : Text} {k : Keyword} (hk : k.hasOneLine = false)
    (h : (tokenize (trim t)).head? = some k.text) : parseBlock (crlf t) = parseBlock t := by
  have hhead : (tokenize (trim (crlf t))).head? = some k.text := by
    have hword : crlf k.text = k.text :=
      crlf_of_not_mem fun hmem => (Keyword.isPlain_of_mem_text k '\n' hmem).1.2.2.2 rfl
    rw [trim_crlf, tokenize_crlf, List.head?_map, h, Option.map_some, hword]
  obtain ⟨parts, hparse⟩ := parse_of_head h
  obtain ⟨parts', hparse'⟩ := parse_of_head hhead
  rw [parseBlock, hparse', trim_crlf, readBlock_of_sameLines (sameLines_crlf _) hk parts' parts,
    ← hparse, parseBlock]

/-- The title is a quote that stays open, and so does the array of the question. -/
theorem parseBlock_crlf_open_spans :
    let t := "quiz z \"On and on\npassingScore: 5\n\nmcq a Q 1 [x y".toList
    Keyword.quiz.hasOneLine = false ∧ (tokenize (trim t)).head? = some Keyword.quiz.text ∧
      parseBlock (crlf t) = parseBlock t ∧
      parseBlock t = .ofOutcome (.error (.notAnArray (.questionChoices 4))) := by
  intro t
  have hhead : (tokenize (trim t)).head? = some Keyword.quiz.text := by decide +kernel
  exact ⟨rfl, hhead, parseBlock_crlf rfl hhead, rfl⟩

end Widgetry
