import Widgetry.Proofs.Scalars

/-!
# What the tokens hold

The scanner drops white space and the marks of spans, which are double quotes and square brackets. A
character that is neither is a letter here. Every step takes a letter as it comes
(`step_of_isLetter`), and no step touches the letters that have been taken before (`taken_step`). So
the tokens of a text hold its letters, each of them once and in order (`conserves_tokenize`),
whatever spans the text leaves open.
-/

namespace Widgetry

open Text

/-! ## Letters -/

namespace Text

/-- Neither white space nor the mark of a span. -/
def isLetter (c : Char) : Bool := !isBlank c && c != '"' && c != '[' && c != ']'

/-- A text without white space and without the marks of spans. -/
def letters (t : Text) : Text := t.filter isLetter

theorem letters_append (a b : Text) : letters (a ++ b) = letters a ++ letters b :=
  List.filter_append a b

theorem letters_of_blank {t : Text} (h : Blank t) : letters t = [] := by
  rw [letters, List.filter_eq_nil_iff]
  intro c hc
  simp [isLetter, h c hc]

/-- Trimming cuts no letter off. -/
theorem letters_trim (t : Text) : letters (trim t) = letters t := by
  obtain ⟨a, b, ha, hb, ht⟩ := exists_frame t
  conv_rhs => rw [ht, letters_append, letters_append, letters_of_blank ha, letters_of_blank hb]
  simp

end Text

/-! ## What the scanner has taken -/

namespace Scan

/-- The letters that the scanner has taken, in finished tokens and in the current one. -/
def taken (s : Scan) : Text := letters (s.tokens.reverse.flatten ++ s.current.reverse)

/-- **A letter is taken in every span.** -/
theorem step_of_isLetter {c : Char} (hc : isLetter c = true) (s : Scan) : s.step c = s.push c := by
  have hblank : ¬ (c = ' ' ∨ c = '\n') := by
    rintro (rfl | rfl)
    · exact absurd hc (by decide)
    · exact absurd hc (by decide)
  have hquote : c ≠ '"' := by
    rintro rfl
    exact absurd hc (by decide)
  have hopen : c ≠ '[' := by
    rintro rfl
    exact absurd hc (by decide)
  have hclose : c ≠ ']' := by
    rintro rfl
    exact absurd hc (by decide)
  unfold step
  cases s.span with
  | plain => simp [hquote, hopen, hblank]
  | quoted => simp [hquote]
  | bracketed => simp [hopen, hclose]

theorem taken_push (s : Scan) (c : Char) : (s.push c).taken = s.taken ++ letters [c] := by
  rw [taken, push, List.reverse_cons, ← List.append_assoc, letters_append, taken]

/-- What ends a token keeps its letters. -/
theorem taken_flush (s : Scan) : s.flush.taken = s.taken := by
  have hcurrent := letters_trim s.current.reverse
  rcases flush_cases s with ⟨hnil, hflush⟩ | ⟨-, hflush⟩
  · rw [hnil] at hcurrent
    rw [hflush, taken, taken, letters_append, letters_append, ← hcurrent]
    rfl
  · rw [hflush, taken, taken, letters_append _ s.current.reverse, ← hcurrent]
    simp [letters]

/-- The brackets that a token gets are no letters. -/
theorem taken_closeBracket (s : Scan) : s.closeBracket.taken = s.taken := by
  have hmarks : letters ['['] = [] ∧ letters [']'] = [] := by decide
  have hcurrent :
      letters (['['] ++ trim s.current.reverse ++ [']']) = letters s.current.reverse := by
    rw [letters_append, letters_append, hmarks.1, hmarks.2, letters_trim]
    simp
  rw [taken, taken, letters_append _ s.current.reverse, ← hcurrent]
  simp [closeBracket, letters]

/-- **A step takes its character if that is a letter**, and keeps what has been taken. -/
theorem taken_step (s : Scan) (c : Char) : (s.step c).taken = s.taken ++ letters [c] := by
  cases hc : isLetter c with
  | true => rw [step_of_isLetter hc, taken_push]
  | false =>
    have hnone : letters [c] = [] := by simp [letters, hc]
    rcases step_cases s c with ⟨span, hstep, -⟩ | hstep | ⟨hstep, -⟩ | ⟨hstep, -⟩
    · rw [hstep, hnone, List.append_nil]
      rfl
    · rw [hstep, taken_push]
    · rw [hstep, taken_flush, hnone, List.append_nil]
    · rw [hstep, taken_closeBracket, hnone, List.append_nil]

theorem taken_foldl (s : Scan) (t : Text) : (t.foldl step s).taken = s.taken ++ letters t := by
  induction t generalizing s with
  | nil => exact (List.append_nil _).symm
  | cons c t ih =>
    rw [List.foldl_cons, ih, taken_step, List.append_assoc, ← letters_append]
    rfl

end Scan

/-! ## Tokens -/

/-- Every token is a scalar, and together they hold the letters of the text, each of them once and in
order. -/
structure Conserves (t : Text) (tokens : List Text) : Prop where
  scalar : ∀ token ∈ tokens, Scalar token
  letters : letters tokens.flatten = letters t

/-- **Cutting a text into tokens loses no letter and doubles none**, and leaves no token empty or
with white space at its ends. -/
theorem conserves_tokenize (t : Text) : Conserves t (tokenize t) := by
  refine ⟨fun token => scalar_of_mem_tokenize, ?_⟩
  have htaken : (scan t).flush.taken = letters t := by
    rw [Scan.taken_flush, scan, Scan.taken_foldl]
    rfl
  rw [← htaken, Scan.current_flush, Scan.taken, tokenize]
  simp

/-- Spans that touch a word join it, and an open one takes what is left. -/
example : tokenize " a\"b [c\"] d[\"e\" f]g [[h \"i".toList =
    ["ab [c]".toList, "[d\"e\" f]".toList, "g".toList, "h \"i".toList] := by decide

end Widgetry
