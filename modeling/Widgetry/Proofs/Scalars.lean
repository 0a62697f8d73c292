import Widgetry.Proofs.Tokens

/-!
# Scalars

A scalar is a text that is not empty and has no white space at its ends. Every token is one, whatever
spans the text leaves open (`scalar_of_mem_tokenize`).
-/

namespace Widgetry

open Text

namespace Text

/-- A text that is not empty and has no white space at its ends. -/
structure Scalar (t : Text) : Prop where
  ne_nil : t ≠ []
  trimmed : Trimmed t

/-- A scalar that double quotes keep together. -/
structure Quotable (t : Text) : Prop extends Scalar t where
  unquoted : '"' ∉ t

instance (t : Text) : Decidable (Scalar t) :=
  decidable_of_iff (t ≠ [] ∧ Trimmed t) ⟨fun h => ⟨h.1, h.2⟩, fun h => ⟨h.ne_nil, h.trimmed⟩⟩

instance (t : Text) : Decidable (Quotable t) :=
  decidable_of_iff (Scalar t ∧ '"' ∉ t) ⟨fun h => ⟨h.1, h.2⟩, fun h => ⟨h.toScalar, h.unquoted⟩⟩

theorem scalar_trim {t : Text} (h : trim t ≠ []) : Scalar (trim t) := ⟨h, trimmed_trim t⟩

/-- Ink at both ends makes a scalar. -/
theorem scalar_of_ends {a b : Char} (ha : isBlank a = false) (hb : isBlank b = false) (t : Text) :
    Scalar (a :: t ++ [b]) :=
  ⟨by simp, trimmed_of_ends ha hb t⟩

end Text

/-! ## Tokens -/

namespace Scan

theorem scalar_of_mem_flush {s : Scan} (h : ∀ x ∈ s.tokens, Scalar x) :
    ∀ x ∈ s.flush.tokens, Scalar x := by
  intro x hx
  rcases flush_cases s with ⟨-, hflush⟩ | ⟨hne, hflush⟩
  · rw [hflush] at hx
    exact h x hx
  · rw [hflush, List.mem_cons] at hx
    rcases hx with rfl | hx
    · exact scalar_trim hne
    · exact h x hx

theorem scalar_of_mem_step {s : Scan} (h : ∀ x ∈ s.tokens, Scalar x) (c : Char) :
    ∀ x ∈ (s.step c).tokens, Scalar x := by
  rcases step_cases s c with ⟨span, hstep, -⟩ | hstep | ⟨hstep, -⟩ | ⟨hstep, -⟩
  · rw [hstep]
    exact h
  · rw [hstep]
    exact h
  · rw [hstep]
    exact scalar_of_mem_flush h
  · -- the token of an array has its brackets at the ends
    intro x hx
    rw [hstep, closeBracket, List.mem_cons] at hx
    rcases hx with rfl | hx
    · exact scalar_of_ends (by decide) (by decide) _
    · exact h x hx

theorem scalar_of_mem_scan (t : Text) : ∀ x ∈ (scan t).tokens, Scalar x := by
  induction t using List.reverseRecOn with
  | nil => simp [scan, start]
  | append_singleton t c ih =>
    rw [scan_append]
    exact scalar_of_mem_step ih c

end Scan

/-- **Every token is a scalar**, also where a span is left open. -/
theorem scalar_of_mem_tokenize {t token : Text} (h : token ∈ tokenize t) : Scalar token := by
  rw [tokenize, List.mem_reverse] at h
  exact Scan.scalar_of_mem_flush (Scan.scalar_of_mem_scan t) token h

end Widgetry
