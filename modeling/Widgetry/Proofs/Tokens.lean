import Widgetry.Proofs.Trim
import Widgetry.Token

/-!
# Tokens of a text that goes on

A step of the scanner keeps, enters or leaves a span, takes a character, or finishes a token
(`step_cases`), and which of these it does depends on the span and on the character alone
(`step_alike`); finished tokens are never touched again (`tokens_suffix_foldl`), so they are tokens
of every longer text (`getElem?_tokenize_append`).

What the first token is can be told from the first word, if that word is free of quotes and opening
brackets: the token begins with the same word, unless it is an array (`head_tokenize`). The two
may differ, since a word ends at any blank and a token only at a space or a line feed.
-/

namespace Widgetry.Scan

open Text

/-! ## Steps -/

/-- **Two scanners in the same span do the same** with a character, and this is all they can do. -/
theorem step_alike {s s' : Scan} (h : s'.span = s.span) (c : Char) :
    (∃ span, (s.step c = s.enter span ∧ s'.step c = s'.enter span) ∧
        (span = .bracketed → c = '[')) ∨
      (s.step c = s.push c ∧ s'.step c = s'.push c) ∨
      ((s.step c = s.flush ∧ s'.step c = s'.flush) ∧ (c = ' ' ∨ c = '\n')) ∨
      ((s.step c = s.closeBracket ∧ s'.step c = s'.closeBracket) ∧ s.span = .bracketed) := by
  obtain ⟨tokens, current, span⟩ := s
  obtain ⟨tokens', current', span'⟩ := s'
  obtain rfl : span = span' := h.symm
  cases span with
  | plain =>
    by_cases hq : c = '"'
    · exact Or.inl ⟨.quoted, by simp [step, hq]⟩
    by_cases hb : c = '['
    · exact Or.inl ⟨.bracketed, by simp [step, hb]⟩
    by_cases hs : c = ' ' ∨ c = '\n'
    · exact Or.inr (Or.inr (Or.inl ⟨by simp [step, hq, hb, hs], hs⟩))
    · exact Or.inr (Or.inl (by simp [step, hq, hb, hs]))
  | quoted =>
    by_cases hq : c = '"'
    · exact Or.inl ⟨.plain, by simp [step, hq]⟩
    · exact Or.inr (Or.inl (by simp [step, hq]))
  | bracketed =>
    by_cases hc : c = ']'
    · exact Or.inr (Or.inr (Or.inr ⟨by simp [step, hc], rfl⟩))
    by_cases hb : c = '['
    · exact Or.inl ⟨.bracketed, by simp [step, hb, enter]⟩
    · exact Or.inr (Or.inl (by simp [step, hc, hb]))

/-- All that a step can do. -/
theorem step_cases (s : Scan) (c : Char) :
    (∃ span, s.step c = s.enter span ∧ (span = .bracketed → c = '[')) ∨
      s.step c = s.push c ∨
      (s.step c = s.flush ∧ (c = ' ' ∨ c = '\n')) ∨
      (s.step c = s.closeBracket ∧ s.span = .bracketed) := by
  rcases step_alike (s := s) rfl c with
    ⟨span, ⟨h, -⟩, hopen⟩ | ⟨h, -⟩ | ⟨⟨h, -⟩, hc⟩ | ⟨⟨h, -⟩, hspan⟩
  · exact Or.inl ⟨span, h, hopen⟩
  · exact Or.inr (Or.inl h)
  · exact Or.inr (Or.inr (Or.inl ⟨h, hc⟩))
  · exact Or.inr (Or.inr (Or.inr ⟨h, hspan⟩))

/-- The current token ends as no token or as its trimmed characters. -/
theorem flush_cases (s : Scan) :
    (trim s.current.reverse = [] ∧ s.flush = ⟨s.tokens, [], s.span⟩) ∨
      (trim s.current.reverse ≠ [] ∧
        s.flush = ⟨trim s.current.reverse :: s.tokens, [], s.span⟩) := by
  unfold flush
  split
  · rename_i h
    exact Or.inl ⟨h, rfl⟩
  · rename_i h
    exact Or.inr ⟨h, rfl⟩

/-- A flushed scanner has no current token left. -/
theorem current_flush (s : Scan) : s.flush = ⟨s.flush.tokens, [], s.span⟩ := by
  rcases flush_cases s with ⟨-, hflush⟩ | ⟨-, hflush⟩
  · rw [hflush]
  · rw [hflush]

/-- A word without blanks is finished as it stands. -/
theorem flush_of_ink {w : Text} (hne : w ≠ []) (hw : ∀ c ∈ w, isBlank c = false)
    (tokens : List Text) (span : Span) :
    flush ⟨tokens, w.reverse, span⟩ = ⟨w :: tokens, [], span⟩ := by
  have htrim : trim w.reverse.reverse = w := by rw [List.reverse_reverse, trim_of_ink hw]
  rcases flush_cases ⟨tokens, w.reverse, span⟩ with ⟨hnil, -⟩ | ⟨-, hflush⟩
  · exact absurd (htrim.symm.trans hnil) hne
  · rw [hflush, htrim]

theorem tokens_suffix_flush (s : Scan) : s.tokens <:+ s.flush.tokens := by
  rcases flush_cases s with ⟨-, h⟩ | ⟨-, h⟩
  · exact ⟨[], by rw [h]; rfl⟩
  · exact ⟨[trim s.current.reverse], by rw [h]; rfl⟩

theorem tokens_suffix_step (s : Scan) (c : Char) : s.tokens <:+ (s.step c).tokens := by
  rcases step_cases s c with ⟨span, h, -⟩ | h | ⟨h, -⟩ | ⟨h, -⟩
  · rw [h]; exact List.suffix_rfl
  · rw [h]; exact List.suffix_rfl
  · rw [h]; exact tokens_suffix_flush s
  · rw [h]; exact List.suffix_cons _ _

/-- **Finished tokens stay**, whatever comes after them. -/
theorem tokens_suffix_foldl (s : Scan) (t : Text) : s.tokens <:+ (t.foldl step s).tokens := by
  induction t generalizing s with
  | nil => exact List.suffix_rfl
  | cons c t ih => exact (tokens_suffix_step s c).trans (ih (s.step c))

/-- The first token is finished, whatever comes. -/
theorem getLast?_of_suffix {s s' : Scan} {first : Text} (h : s.tokens.getLast? = some first)
    (hs : s.tokens <:+ s'.tokens) : s'.tokens.getLast? = some first := by
  obtain ⟨newer, hnew⟩ := hs
  rw [← hnew, List.getLast?_append, h]
  rfl

/-- A character that means nothing to the scanner between spans. -/
def IsPlain (c : Char) : Prop := c ≠ '"' ∧ c ≠ '[' ∧ c ≠ ' ' ∧ c ≠ '\n'

instance (c : Char) : Decidable (IsPlain c) := inferInstanceAs (Decidable (_ ∧ _))

/-- A plain word: no blank, no quote and no opening bracket stands in it. -/
def IsWord (t : Text) : Prop := ∀ c ∈ t, IsPlain c ∧ isBlank c = false

instance (t : Text) : Decidable (IsWord t) :=
  List.decidableBAll (fun c => IsPlain c ∧ isBlank c = false) t

theorem step_of_isPlain {c : Char} (hc : IsPlain c) (tokens : List Text) (current : Text) :
    step ⟨tokens, current, .plain⟩ c = ⟨tokens, c :: current, .plain⟩ := by
  obtain ⟨hq, hb, hs, hn⟩ := hc
  simp [step, push, hq, hb, hs, hn]

theorem foldl_step_of_isPlain {w : Text} (hw : ∀ c ∈ w, IsPlain c) (tokens : List Text)
    (current : Text) :
    w.foldl step ⟨tokens, current, .plain⟩ = ⟨tokens, w.reverse ++ current, .plain⟩ := by
  induction w generalizing current with
  | nil => rfl
  | cons c w ih =>
    rw [List.foldl_cons, step_of_isPlain (hw c List.mem_cons_self),
      ih fun d hd => hw d (List.mem_cons_of_mem c hd)]
    simp

/-! ## The first token -/

/-- A token that begins like a text whose first word is `w`: it has that first word, or it is an
array into which the word has been taken. -/
def Begins (w token : Text) : Prop := token.head? = some '[' ∨ Keyword.leadingWord token = w

/-- The scanner has read the word `w` and a blank after it: they stand at the front of the current
token, or the first token is finished and begins with the word. -/
def Opened (w : Text) (s : Scan) : Prop :=
  match s.tokens.getLast? with
  | none => Keyword.leadingWord s.current.reverse = w ∧ ∃ c ∈ s.current, isBlank c = true
  | some first => Begins w first

theorem opened_of_suffix {w : Text} {s s' : Scan} (hne : s.tokens ≠ []) (h : Opened w s)
    (hs : s.tokens <:+ s'.tokens) : Opened w s' := by
  have hfirst := List.getLast?_eq_some_getLast hne
  rw [Opened, hfirst] at h
  rw [Opened, getLast?_of_suffix hfirst hs]
  exact h

theorem opened_flush {w : Text} (hw : w ≠ []) {s : Scan} (h : Opened w s) : Opened w s.flush := by
  by_cases hne : s.tokens = []
  · rw [Opened, hne] at h
    obtain ⟨hword, -⟩ := h
    have hfront := Keyword.front_of_leadingWord_ne_nil (hword ▸ hw)
    have htrim := Keyword.leadingWord_trim_of_front hfront
    rcases flush_cases s with ⟨hnil, -⟩ | ⟨-, hflush⟩
    · rw [hnil, hword] at htrim
      exact absurd htrim.symm hw
    · rw [hflush, hne]
      exact Or.inr (htrim.trans hword)
  · exact opened_of_suffix hne h (tokens_suffix_flush s)

theorem opened_step {w : Text} (hw : w ≠ []) {s : Scan} (h : Opened w s) (c : Char) :
    Opened w (s.step c) := by
  by_cases hne : s.tokens = []
  · -- no token is finished yet, so the word stands in the current one
    rcases step_cases s c with ⟨span, hstep, -⟩ | hstep | ⟨hstep, -⟩ | ⟨hstep, -⟩
    · rw [hstep]; exact h
    · rw [hstep]
      simp only [Opened, push, hne] at h ⊢
      obtain ⟨hword, b, hb, hblank⟩ := h
      refine ⟨?_, b, List.mem_cons_of_mem c hb, hblank⟩
      rw [List.reverse_cons,
        Keyword.leadingWord_append_of_blank (List.mem_reverse.mpr hb) hblank, hword]
    · rw [hstep]; exact opened_flush hw h
    · rw [hstep]
      simp [Opened, Begins, closeBracket, hne]
  · exact opened_of_suffix hne h (tokens_suffix_step s c)

theorem opened_foldl {w : Text} (hw : w ≠ []) {s : Scan} (h : Opened w s) (t : Text) :
    Opened w (t.foldl step s) := by
  induction t generalizing s with
  | nil => exact h
  | cons c t ih => exact ih (opened_step hw h c)

/-- The first character after a plain first word is a blank, which ends the word's token or is
taken into it. -/
theorem opened_step_of_isPlain {w : Text} (hw : ∀ c ∈ w, IsPlain c ∧ isBlank c = false)
    (hne : w ≠ []) {c : Char} (hc : isBlank c = true) :
    Opened w (step ⟨[], w.reverse, .plain⟩ c) := by
  have hword : Keyword.leadingWord w = w := Keyword.leadingWord_eq_self fun d hd => (hw d hd).2
  by_cases hs : c = ' ' ∨ c = '\n'
  · have hq : c ≠ '"' := by rintro rfl; exact absurd hc (by decide)
    have hb : c ≠ '[' := by rintro rfl; exact absurd hc (by decide)
    have hstep : step ⟨[], w.reverse, .plain⟩ c = flush ⟨[], w.reverse, .plain⟩ := by
      simp [step, hq, hb, hs]
    rw [hstep, flush_of_ink hne fun d hd => (hw d hd).2]
    exact Or.inr hword
  · have hplain : IsPlain c := by
      refine ⟨?_, ?_, fun h => hs (Or.inl h), fun h => hs (Or.inr h)⟩
      · rintro rfl; exact absurd hc (by decide)
      · rintro rfl; exact absurd hc (by decide)
    rw [step_of_isPlain hplain]
    refine ⟨?_, c, List.mem_cons_self, hc⟩
    rw [List.reverse_cons, List.reverse_reverse,
      Keyword.leadingWord_append_of_blank_right (by simpa [Blank] using hc), hword]

end Widgetry.Scan

namespace Widgetry

open Text Scan

theorem scan_of_isPlain {w : Text} (hw : ∀ c ∈ w, IsPlain c) :
    scan w = ⟨[], w.reverse, .plain⟩ := by
  rw [scan, Scan.start, foldl_step_of_isPlain hw, List.append_nil]

/-- **The first token of a text begins like the text**, if the first word of the text is free of
quotes and opening brackets. -/
theorem head_tokenize {t : Text} (hne : Keyword.leadingWord t ≠ [])
    (hw : ∀ c ∈ Keyword.leadingWord t, IsPlain c) :
    ∃ first, (tokenize t).head? = some first ∧ Begins (Keyword.leadingWord t) first := by
  have hink : ∀ c ∈ Keyword.leadingWord t, IsPlain c ∧ isBlank c = false :=
    fun c hc => ⟨hw c hc, Keyword.not_blank_of_mem_leadingWord hc⟩
  rw [tokenize, List.head?_reverse]
  rcases Keyword.leadingWord_cases t with ht | ⟨c, rest, hc, ht⟩
  · rw [ht] at hw hne hink ⊢
    rw [scan_of_isPlain hw, flush_of_ink hne fun d hd => (hink d hd).2]
    exact ⟨t, rfl, Or.inr ht⟩
  · have hscan : scan t = rest.foldl step (step ⟨[], (Keyword.leadingWord t).reverse, .plain⟩ c) := by
      conv_lhs => rw [ht]
      rw [scan_append, scan_of_isPlain hw, List.foldl_cons]
    have hopened : Opened (Keyword.leadingWord t) (scan t).flush := by
      rw [hscan]
      exact opened_flush hne (opened_foldl hne (opened_step_of_isPlain hink hne hc) rest)
    unfold Opened at hopened
    cases hlast : (scan t).flush.tokens.getLast? with
    | some first => rw [hlast] at hopened; exact ⟨first, rfl, hopened⟩
    | none =>
      -- a flushed scanner has no current token left that could begin with the word
      rw [hlast, current_flush] at hopened
      exact absurd hopened.1.symm hne

/-! ## Finished tokens -/

/-- **Finished tokens are the first tokens of every longer text.** -/
theorem reverse_tokens_prefix_tokenize_append (a b : Text) :
    (scan a).tokens.reverse <+: tokenize (a ++ b) := by
  rw [tokenize, List.reverse_prefix, scan_append]
  exact (tokens_suffix_foldl (scan a) b).trans (tokens_suffix_flush _)

theorem getElem?_tokenize_of_lt {a : Text} {i : Nat} (hi : i < (scan a).tokens.length)
    (b : Text) : (tokenize (a ++ b))[i]? = (scan a).tokens.reverse[i]? := by
  obtain ⟨newer, hnew⟩ := reverse_tokens_prefix_tokenize_append a b
  rw [← hnew, List.getElem?_append_left (by simpa using hi)]

/-- **Finished tokens are the same tokens of every longer text.** -/
theorem getElem?_tokenize_append {a : Text} {i : Nat} (hi : i < (scan a).tokens.length)
    (b : Text) : (tokenize (a ++ b))[i]? = (tokenize a)[i]? := by
  have h := getElem?_tokenize_of_lt hi []
  rw [List.append_nil] at h
  rw [getElem?_tokenize_of_lt hi, h]

/-- The token that a text ends in comes after the finished ones. -/
theorem getElem?_tokenize_current {a : Text} (h : trim (scan a).current.reverse ≠ []) :
    (tokenize a)[(scan a).tokens.length]? = some (trim (scan a).current.reverse) := by
  rcases flush_cases (scan a) with ⟨hnil, -⟩ | ⟨-, hflush⟩
  · exact absurd hnil h
  · rw [tokenize, hflush, List.reverse_cons]
    simp

end Widgetry
