import Widgetry.Proofs.Scalars

/-!
# Tokens on both sides of a separator

What a scanner does with the next character does not depend on the tokens it has finished
(`foldl_step_onto`). A space or a line feed outside of spans ends a token and leaves nothing but
finished tokens behind, so the tokens of a text are those before it and those after it
(`tokenize_append_separator`), and a line of closed parts has the tokens of its parts
(`tokenize_intercalate`). Where a text goes on without a separator, its last token may change and no
other one (`tokenize_continued`).
-/

namespace Widgetry

open Text

namespace Scan

/-- The scanner with older tokens below its own. -/
def onto (s : Scan) (older : List Text) : Scan := ⟨s.tokens ++ older, s.current, s.span⟩

theorem flush_onto (s : Scan) (older : List Text) : (s.onto older).flush = s.flush.onto older := by
  unfold flush onto
  split
  · rename_i h
    simp only at h
    rw [h]
  · rfl

theorem step_onto (s : Scan) (older : List Text) (c : Char) :
    (s.onto older).step c = (s.step c).onto older := by
  obtain ⟨tokens, current, span⟩ := s
  -- tokens are only added, on top of those that are finished
  cases span with
  | plain =>
    simp only [step, onto]
    split
    · rfl
    · split
      · rfl
      · split
        · exact flush_onto ⟨tokens, current, .plain⟩ older
        · rfl
  | quoted =>
    simp only [step, onto]
    split
    · rfl
    · rfl
  | bracketed =>
    simp only [step, onto]
    split
    · rfl
    · split
      · rfl
      · rfl

/-- **Finished tokens do not matter** for what comes after them. -/
theorem foldl_step_onto (s : Scan) (older : List Text) (t : Text) :
    t.foldl step (s.onto older) = (t.foldl step s).onto older := by
  induction t generalizing s with
  | nil => rfl
  | cons c t ih => rw [List.foldl_cons, List.foldl_cons, step_onto, ih]

/-- A scanner that has nothing but finished tokens begins anew. -/
theorem eq_onto_start (tokens : List Text) : (⟨tokens, [], .plain⟩ : Scan) = start.onto tokens := rfl

end Scan

open Scan

/-- A character that ends tokens outside of spans. -/
def IsSeparator (c : Char) : Prop := c = ' ' ∨ c = '\n'

theorem step_of_isSeparator {s : Scan} (hs : s.span = .plain) {c : Char} (hc : IsSeparator c) :
    s.step c = start.onto s.flush.tokens := by
  obtain ⟨tokens, current, span⟩ := s
  obtain rfl : span = .plain := hs
  have hflush : step ⟨tokens, current, .plain⟩ c = flush ⟨tokens, current, .plain⟩ := by
    rcases hc with rfl | rfl
    · rfl
    · rfl
  rw [hflush, current_flush, eq_onto_start]
  rfl

/-- What comes after a separator is scanned as if nothing stood before it. -/
theorem scan_append_separator {a : Text} (ha : (scan a).span = .plain) {c : Char}
    (hc : IsSeparator c) (b : Text) :
    scan (a ++ c :: b) = (scan b).onto (scan a).flush.tokens := by
  rw [scan_append, List.foldl_cons, step_of_isSeparator ha hc, foldl_step_onto]
  rfl

/-- **A separator outside of spans parts the tokens**: those before it, then those after it. -/
theorem tokenize_append_separator {a : Text} (ha : (scan a).span = .plain) {c : Char}
    (hc : IsSeparator c) (b : Text) : tokenize (a ++ c :: b) = tokenize a ++ tokenize b := by
  rw [tokenize, scan_append_separator ha hc, flush_onto]
  simp [onto, tokenize]

/-- A text whose spans are all closed. -/
def Closes (t : Text) : Prop := (scan t).span = .plain

/-- A line of closed parts is closed. -/
theorem closes_intercalate {parts : List Text} (h : ∀ part ∈ parts, Closes part) :
    Closes ([' '].intercalate parts) := by
  induction parts with
  | nil => rfl
  | cons part parts ih =>
    have hpart := h part List.mem_cons_self
    have hrest := ih fun p hp => h p (List.mem_cons_of_mem part hp)
    cases parts with
    | nil => simpa using hpart
    | cons next parts =>
      rw [List.intercalate_cons_cons, List.append_assoc, List.singleton_append, Closes,
        scan_append_separator hpart (Or.inl rfl)]
      exact hrest

/-- **The tokens of a line of closed parts are the tokens of the parts.** -/
theorem tokenize_intercalate {parts : List Text} (h : ∀ part ∈ parts, Closes part) :
    tokenize ([' '].intercalate parts) = parts.flatMap tokenize := by
  induction parts with
  | nil => rfl
  | cons part parts ih =>
    have hpart := h part List.mem_cons_self
    have hrest := ih fun p hp => h p (List.mem_cons_of_mem part hp)
    cases parts with
    | nil => simp
    | cons next parts =>
      rw [List.intercalate_cons_cons, List.append_assoc, List.singleton_append,
        tokenize_append_separator hpart (Or.inl rfl), hrest]
      rfl

/-! ## Texts that go on -/

/-- Only the last token of a text need not be finished. -/
theorem dropLast_tokenize_prefix_tokens (t : Text) :
    (tokenize t).dropLast <+: (scan t).tokens.reverse := by
  rcases flush_cases (scan t) with ⟨-, hflush⟩ | ⟨-, hflush⟩
  · rw [tokenize, hflush]
    exact List.dropLast_prefix _
  · rw [tokenize, hflush, List.reverse_cons]
    simp

/-- **The tokens of a text that goes on.** Whatever comes behind a text, its tokens but the last one
are the first tokens of the longer text. Behind a separator outside of spans the last one stays too,
and the tokens of what comes behind the separator follow. -/
theorem tokenize_continued (a b : Text) :
    (tokenize a).dropLast <+: tokenize (a ++ b) ∧
      (Closes a → ∀ c, IsSeparator c → tokenize (a ++ c :: b) = tokenize a ++ tokenize b) := by
  constructor
  · exact (dropLast_tokenize_prefix_tokens a).trans (reverse_tokens_prefix_tokenize_append a b)
  · intro ha c hc
    exact tokenize_append_separator ha hc b

/-- The text ends with a closing bracket and an empty pair of quotes, and what comes behind it leaves
an array open. -/
theorem tokenize_continued_empty_quotes :
    let a := "q \"a b\"[k]\"\"".toList
    let b := "z [\"w".toList
    Closes a ∧ (tokenize a).dropLast = ["q".toList] ∧ ["q".toList] <+: tokenize (a ++ b) ∧
      tokenize (a ++ '\n' :: b) =
        ["q".toList, "[a bk]".toList, "z".toList, "\"w".toList] := by
  intro a b
  obtain ⟨hfront, hjoin⟩ := tokenize_continued a b
  have hclosed : Closes a := rfl
  have hlast : (tokenize a).dropLast = ["q".toList] := by decide
  rw [hlast] at hfront
  refine ⟨hclosed, hlast, hfront, ?_⟩
  rw [hjoin hclosed '\n' (Or.inr rfl)]
  decide

end Widgetry
