import Widgetry.Proofs.Tokens
import Widgetry.OpenSpan

/-!
# Closing what is open

The characters that complete a text are closers: quotes and closing brackets
(`isCloser_of_mem_closing`). Closers finish at most one array and separate no tokens, so completing
a text leaves its finished tokens and changes at most the last one
(`getElem?_tokenize_append_closers`).
-/

namespace Widgetry

open Text Scan

/-! ## Closers and tokens -/

/-- A character that ends a span. -/
def IsCloser (c : Char) : Prop := c = '"' ∨ c = '\x27' ∨ c = ']'

instance (c : Char) : Decidable (IsCloser c) := inferInstanceAs (Decidable (_ ∨ _))

/-- The scanner `s` comes from `s₀` by closers: the current token has grown by closers, or it has
been finished as an array and closers make up a new one. -/
def ClosedFrom (s₀ s : Scan) : Prop :=
  (s.tokens = s₀.tokens ∧ ∃ x, (∀ c ∈ x, IsCloser c) ∧ s.current = x ++ s₀.current) ∨
    (∃ array : Text, array.head? = some '[' ∧ s.tokens = array :: s₀.tokens ∧
      s.span ≠ .bracketed ∧ ∀ c ∈ s.current, IsCloser c)

theorem closedFrom_step {s₀ s : Scan} {c : Char} (hc : IsCloser c) (h : ClosedFrom s₀ s) :
    ClosedFrom s₀ (s.step c) := by
  rcases step_cases s c with ⟨span, hstep, hspan⟩ | hstep | ⟨-, hsep⟩ | ⟨hstep, hin⟩
  · rw [hstep]
    -- only an opening bracket enters an array, and that is no closer
    have hne : span ≠ .bracketed := by
      intro hb
      rw [hspan hb] at hc
      exact absurd hc (by decide)
    exact h.imp id fun ⟨array, ha, ht, _, hx⟩ => ⟨array, ha, ht, hne, hx⟩
  · rw [hstep]
    rcases h with ⟨ht, x, hx, hcur⟩ | ⟨array, ha, ht, hspan, hx⟩
    · refine Or.inl ⟨ht, c :: x, ?_, by simp [push, hcur]⟩
      simpa using ⟨hc, hx⟩
    · refine Or.inr ⟨array, ha, ht, hspan, ?_⟩
      simpa [push] using ⟨hc, hx⟩
  · rcases hsep with rfl | rfl <;> exact absurd hc (by decide)
  · rw [hstep]
    rcases h with ⟨ht, -⟩ | ⟨-, -, -, hspan, -⟩
    · exact Or.inr ⟨_, rfl, by rw [closeBracket, ht], by simp [closeBracket],
        by simp [closeBracket]⟩
    · exact absurd hin hspan

theorem closedFrom_foldl (s : Scan) {b : Text} (hb : ∀ c ∈ b, IsCloser c) :
    ClosedFrom s (b.foldl step s) := by
  induction b using List.reverseRecOn with
  | nil => exact Or.inl ⟨rfl, [], by simp, rfl⟩
  | append_singleton b c ih =>
    rw [List.foldl_append]
    exact closedFrom_step (hb c (by simp)) (ih fun d hd => hb d (by simp [hd]))

/-- The tokens that closers make. -/
theorem newer_of_closedFrom {s₀ s : Scan} (h : ClosedFrom s₀ s) :
    ∃ newer, s.flush.tokens = newer ++ s₀.tokens ∧
      ∀ i token, newer.reverse[i]? = some token →
        (i = 0 ∧ ∃ x, (∀ c ∈ x, IsCloser c) ∧ token = trim (s₀.current.reverse ++ x)) ∨
          token.head? = some '[' ∨ ∀ c ∈ token, IsCloser c := by
  rcases h with ⟨ht, x, hx, hcur⟩ | ⟨array, harray, ht, -, hx⟩
  · rcases flush_cases s with ⟨-, hflush⟩ | ⟨-, hflush⟩
    · exact ⟨[], by rw [hflush, ht]; rfl, by simp⟩
    · refine ⟨[trim s.current.reverse], by rw [hflush, ht]; rfl, ?_⟩
      intro i token htoken
      rw [List.reverse_singleton, List.getElem?_singleton] at htoken
      split at htoken
      · rename_i hi
        refine Or.inl ⟨hi, x.reverse, by simpa using hx, ?_⟩
        rw [← Option.some.inj htoken, hcur, List.reverse_append]
      · exact absurd htoken (by simp)
  · rcases flush_cases s with ⟨-, hflush⟩ | ⟨-, hflush⟩
    · refine ⟨[array], by rw [hflush, ht]; rfl, ?_⟩
      intro i token htoken
      have hmem : token ∈ [array] := by simpa using List.mem_of_getElem? htoken
      rw [List.mem_singleton.mp hmem]
      exact Or.inr (Or.inl harray)
    · refine ⟨[trim s.current.reverse, array], by rw [hflush, ht]; rfl, ?_⟩
      intro i token htoken
      have hmem : token = trim s.current.reverse ∨ token = array := by
        simpa using List.mem_reverse.mp (List.mem_of_getElem? htoken)
      rcases hmem with rfl | rfl
      · exact Or.inr (Or.inr fun c hc => hx c (List.mem_reverse.mp (mem_of_mem_trim hc)))
      · exact Or.inr (Or.inl harray)

/-- **Closers at the end of a text change no finished token.** A token of the closed text is one of
them, or the text's last token with closers behind it, or an array, or closers alone. -/
theorem getElem?_tokenize_append_closers {a b : Text} (hb : ∀ c ∈ b, IsCloser c) {i : Nat}
    {token : Text} (h : (tokenize (a ++ b))[i]? = some token) :
    (i < (scan a).tokens.length ∧ (tokenize a)[i]? = some token) ∨
      (i = (scan a).tokens.length ∧ ∃ x, (∀ c ∈ x, IsCloser c) ∧
        token = trim ((scan a).current.reverse ++ x)) ∨
      token.head? = some '[' ∨ ∀ c ∈ token, IsCloser c := by
  by_cases hi : i < (scan a).tokens.length
  · rw [getElem?_tokenize_append hi] at h
    exact Or.inl ⟨hi, h⟩
  · obtain ⟨newer, hnew, htokens⟩ := newer_of_closedFrom (closedFrom_foldl (scan a) hb)
    rw [tokenize, scan_append, hnew, List.reverse_append,
      List.getElem?_append_right (by simpa using hi), List.length_reverse] at h
    rcases htokens _ _ h with ⟨hzero, hx⟩ | hother
    · exact Or.inr (Or.inl ⟨by omega, hx⟩)
    · exact Or.inr (Or.inr hother)

/-! ## Closers of a text -/

namespace OpenSpan

/-- Nothing is open: neither quotes nor a bracket. -/
def Closed (s : OpenSpan) : Prop := s.bracketOpen = false ∧ s.quoteOpen = false

instance (s : OpenSpan) : Decidable s.Closed := inferInstanceAs (Decidable (_ ∧ _))

/-- An open quote is a quote. -/
theorem isQuote_of_quote_ofText {t : Text} {q : Char} (h : (ofText t).quote = some q) :
    isQuote q = true := by
  induction t using List.reverseRecOn generalizing q with
  | nil => exact absurd h (by simp [ofText, start])
  | append_singleton t c ih =>
    rw [ofText_append, List.foldl_cons, List.foldl_nil, step] at h
    split at h
    · rename_i q' hq'
      split at h
      · exact absurd h (by simp)
      · exact ih h
    · split at h
      · rename_i hc
        rw [← Option.some.inj h]
        exact hc
      · split at h
        · exact absurd h (by simp)
        · split at h
          · exact absurd h (by simp)
          · exact ih h

/-- What closes a text are closers. -/
theorem isCloser_of_mem_closing {t : Text} {c : Char} (h : c ∈ (ofText t).closing) :
    IsCloser c := by
  rw [closing, List.mem_append, Option.mem_toList, List.mem_replicate] at h
  rcases h with h | ⟨-, rfl⟩
  · have hq := isQuote_of_quote_ofText h
    rw [isQuote, Bool.or_eq_true, beq_iff_eq, beq_iff_eq] at hq
    exact hq.imp_right Or.inl
  · exact Or.inr (Or.inr rfl)

/-- Nothing is open in a keyword. -/
theorem ofText_keyword (k : Keyword) : ofText k.text = start := by
  cases k with
  | chart kind => cases kind <;> decide
  | _ => decide

end OpenSpan

end Widgetry
