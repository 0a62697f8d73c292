import Widgetry.Proofs.Closing
import Widgetry.Streaming.Stream

/-!
# The least completion of a text

What closes a text is the quote that is open and a bracket for each one that is open
(`closed_foldl_closing`). One character ends the quote or lowers the depth by one, and never both, so
what is missing gets shorter by at most one character with each that arrives
(`length_closing_le_foldl`). So a completed text is closed, nothing is added to it again, and no
shorter addition closes the text (`complete_least`), also if brackets have been closed that were
never open.
-/

namespace Widgetry

namespace OpenSpan

/-! ## What is missing -/

/-- **Nothing is missing exactly if nothing is open.** -/
theorem closing_eq_nil_iff {s : OpenSpan} : s.closing = [] ↔ s.Closed := by
  obtain ⟨quote, depth⟩ := s
  cases quote with
  | none => simp [closing, Closed, bracketOpen, quoteOpen]
  | some q => simp [closing, Closed, quoteOpen]

/-- Closing brackets outside of quotes lower the depth. -/
theorem foldl_replicate_bracket (n : Nat) (depth : Int) :
    (List.replicate n ']').foldl step ⟨none, depth⟩ = ⟨none, depth - n⟩ := by
  induction n generalizing depth with
  | zero => simp
  | succ n ih =>
    have hstep : step ⟨none, depth⟩ ']' = ⟨none, depth - 1⟩ := rfl
    rw [List.replicate_succ, List.foldl_cons, hstep, ih]
    congr 1
    omega

/-- **What is missing closes what is open.** -/
theorem closed_foldl_closing (s : OpenSpan) : (s.closing.foldl step s).Closed := by
  obtain ⟨quote, depth⟩ := s
  have hquote : quote.toList.foldl step ⟨quote, depth⟩ = ⟨none, depth⟩ := by
    cases quote with
    | none => rfl
    | some q => simp [step]
  rw [closing, List.foldl_append, hquote, foldl_replicate_bracket]
  refine ⟨?_, rfl⟩
  simp only [bracketOpen, decide_eq_false_iff_not]
  omega

/-- A character supplies at most one of those that are missing. -/
theorem length_closing_le_step (s : OpenSpan) (c : Char) :
    s.closing.length ≤ (s.step c).closing.length + 1 := by
  obtain ⟨quote, depth⟩ := s
  cases quote with
  | some q =>
    -- inside quotes the depth stays
    simp only [step]
    split
    · simp [closing]
    · simp [closing]
  | none =>
    simp only [step]
    split
    · -- a quote that opens adds to what is missing
      simp [closing]
      omega
    · split
      · simp [closing]
        omega
      · split
        · simp [closing]
          omega
        · simp

/-- **Every text that closes a span is at least as long as what is missing.** -/
theorem length_closing_le_foldl (s : OpenSpan) (t : Text) :
    s.closing.length ≤ (t.foldl step s).closing.length + t.length := by
  induction t generalizing s with
  | nil => simp
  | cons c t ih =>
    have hstep := length_closing_le_step s c
    have hrest := ih (s.step c)
    rw [List.foldl_cons, List.length_cons]
    omega

end OpenSpan

open OpenSpan

/-! ## Completed texts -/

theorem closed_complete (t : Text) : (ofText (complete t)).Closed := by
  rw [complete, ofText_append]
  exact closed_foldl_closing (ofText t)

/-- A text is complete as it stands exactly if nothing is open at its end. -/
theorem complete_eq_self_iff {t : Text} : complete t = t ↔ (ofText t).Closed := by
  rw [complete, List.append_right_eq_self, closing_eq_nil_iff]

namespace Streaming

/-- Neither flag is set for the text. -/
def NothingPending (t : Text) : Prop :=
  (pendingOf t).unclosedBracket = some false ∧ (pendingOf t).unclosedQuote = some false

theorem nothingPending_iff {t : Text} : NothingPending t ↔ (ofText t).Closed := by
  simp [NothingPending, pendingOf, Closed]

/-- **Completing a text closes everything, once and for all, with as little as possible.** The text
stays in front, neither flag is set for the completed text, and completing that changes nothing. The
text itself changes exactly if a flag is set for it, and whatever else is put behind it so that
neither flag is set is at least as long. -/
theorem complete_least (t : Text) :
    ∃ added, complete t = t ++ added ∧ NothingPending (complete t) ∧
      complete (complete t) = complete t ∧ (complete t = t ↔ NothingPending t) ∧
      ∀ s, NothingPending (t ++ s) → added.length ≤ s.length := by
  have hclosed := closed_complete t
  refine ⟨(ofText t).closing, rfl, nothingPending_iff.mpr hclosed,
    complete_eq_self_iff.mpr hclosed, complete_eq_self_iff.trans nothingPending_iff.symm, ?_⟩
  intro s hs
  have hnil : (ofText (t ++ s)).closing = [] := closing_eq_nil_iff.mpr (nothingPending_iff.mp hs)
  have hle := length_closing_le_foldl (ofText t) s
  rwa [← ofText_append, hnil, List.length_nil, Nat.zero_add] at hle

/-- One bracket is owed to the closing ones, and apostrophes hide the other. -/
example : complete "]][ \x27[".toList = "]][ \x27[\x27".toList := by decide

end Streaming

end Widgetry
