import Mathlib.Data.List.Infix
import Widgetry.Proofs.Verdict

/-!
# When a stream converges

A stream should call a text complete exactly if the grammar accepts it and the tokenizer ends it
outside every span. But a stream asks another scanner whether a span is open, and the two scanners
read four kinds of characters differently (`Clash`). On texts without such characters they agree
(`agree_prefixes_iff`), and a stream converges exactly where the two ends agree
(`converges_iff`). The others go wrong in both directions (`not_converges_apostrophe`): an apostrophe
in a plain text keeps a block open until another one arrives (`not_completes_of_open_quote`), and
apostrophes around an opening bracket hide an open array.
-/

namespace Widgetry

open Text Scan OpenSpan

namespace Streaming

/-! ## Two scanners of one text -/

/-- The two scanners mean the same: nothing is open, or a double quote, or one bracket. Inside
brackets only the one of them watches quotes. -/
def Agree (span : Span) (o : OpenSpan) : Prop :=
  match span with
  | .plain => o = ⟨none, 0⟩
  | .quoted => o = ⟨some '"', 0⟩
  | .bracketed => o.depth = 1

instance : (span : Span) → (o : OpenSpan) → Decidable (Agree span o)
  | .plain, _ => inferInstanceAs (Decidable (_ = _))
  | .quoted, _ => inferInstanceAs (Decidable (_ = _))
  | .bracketed, _ => inferInstanceAs (Decidable (_ = _))

/-- A character that the two scanners read differently: an apostrophe or a closing bracket outside
of spans, an opening bracket inside an array, and a closing bracket inside a quote of an array. -/
def Clash (span : Span) (quote : Option Char) (c : Char) : Prop :=
  match span with
  | .plain => c = '\x27' ∨ c = ']'
  | .quoted => False
  | .bracketed => (quote = none ∧ c = '[') ∨ (quote ≠ none ∧ c = ']')

instance : (span : Span) → (quote : Option Char) → (c : Char) → Decidable (Clash span quote c)
  | .plain, _, _ => inferInstanceAs (Decidable (_ ∨ _))
  | .quoted, _, _ => inferInstanceAs (Decidable False)
  | .bracketed, _, _ => inferInstanceAs (Decidable (_ ∨ _))

/-- Some character of the text is a clash. -/
def Clashes (t : Text) : Prop :=
  ∃ a c b, t = a ++ c :: b ∧ Clash (scan a).span (ofText a).quote c

theorem flush_span (s : Scan) : s.flush.span = s.span := by
  rw [current_flush]

/-- What a character does to the span of the tokenizer. -/
def nextSpan (span : Span) (c : Char) : Span :=
  match span with
  | .plain => if c = '"' then .quoted else if c = '[' then .bracketed else .plain
  | .quoted => if c = '"' then .plain else .quoted
  | .bracketed => if c = ']' then .plain else .bracketed

theorem span_step (s : Scan) (c : Char) : (s.step c).span = nextSpan s.span c := by
  obtain ⟨tokens, current, span⟩ := s
  cases span with
  | plain =>
    unfold Scan.step nextSpan
    dsimp only
    split
    · rfl
    · split
      · rfl
      · split
        · exact flush_span _
        · rfl
  | quoted =>
    unfold Scan.step nextSpan
    dsimp only
    split
    · rfl
    · rfl
  | bracketed =>
    unfold Scan.step nextSpan
    dsimp only
    split
    · rfl
    · split
      · rfl
      · rfl

/-- **The scanners keep their agreement exactly over the characters that are no clash.** -/
theorem agree_step_iff {span : Span} {o : OpenSpan} {c : Char} (h : Agree span o) :
    Agree (nextSpan span c) (o.step c) ↔ ¬ Clash span o.quote c := by
  obtain ⟨quote, depth⟩ := o
  cases span with
  | plain =>
    obtain ⟨rfl, rfl⟩ := OpenSpan.mk.inj h
    by_cases hapostrophe : c = '\x27'
    · subst hapostrophe
      decide
    by_cases hclose : c = ']'
    · subst hclose
      decide
    by_cases hquote : c = '"'
    · subst hquote
      decide
    by_cases hopen : c = '['
    · subst hopen
      decide
    · simp [Agree, Clash, nextSpan, OpenSpan.step, isQuote, hquote, hopen, hapostrophe, hclose]
  | quoted =>
    obtain ⟨rfl, rfl⟩ := OpenSpan.mk.inj h
    by_cases hquote : c = '"'
    · subst hquote
      decide
    · simp [Agree, Clash, nextSpan, OpenSpan.step, hquote]
  | bracketed =>
    have hdepth : depth = 1 := h
    subst hdepth
    cases quote with
    | none =>
      -- a quote moves only one of the scanners here, and both stay in the array
      by_cases hclose : c = ']'
      · subst hclose
        decide
      by_cases hopen : c = '['
      · subst hopen
        decide
      by_cases hquote : isQuote c = true
      · simp [Agree, Clash, nextSpan, OpenSpan.step, hclose, hopen, hquote]
      · simp [Agree, Clash, nextSpan, OpenSpan.step, hclose, hopen, hquote]
    | some q =>
      by_cases hclose : c = ']'
      · subst hclose
        by_cases hquote : ']' = q
        · subst hquote
          decide
        · simp [Agree, Clash, nextSpan, OpenSpan.step, hquote]
      by_cases hquote : c = q
      · subst hquote
        simp [Agree, Clash, nextSpan, OpenSpan.step, hclose]
      · simp [Agree, Clash, nextSpan, OpenSpan.step, hclose, hquote]

theorem not_clashes_snoc_iff {t : Text} {c : Char} :
    ¬ Clashes (t ++ [c]) ↔ ¬ Clashes t ∧ ¬ Clash (scan t).span (ofText t).quote c := by
  constructor
  · intro h
    constructor
    · rintro ⟨a, d, b, rfl, hclash⟩
      exact h ⟨a, d, b ++ [c], by simp, hclash⟩
    · intro hclash
      exact h ⟨t, c, [], rfl, hclash⟩
  · rintro ⟨ht, hc⟩ ⟨a, d, b, hsplit, hclash⟩
    cases b using List.reverseRecOn with
    | nil =>
      obtain ⟨rfl, hd⟩ := List.append_inj' hsplit rfl
      cases hd
      exact hc hclash
    | append_singleton b e =>
      rw [← List.cons_append, ← List.append_assoc] at hsplit
      obtain ⟨rfl, -⟩ := List.append_inj' hsplit rfl
      exact ht ⟨a, d, b, rfl, hclash⟩

/-- **The two scanners agree all along a text exactly if no character of it is a clash.** -/
theorem agree_prefixes_iff {t : Text} :
    (∀ a, a <+: t → Agree (scan a).span (ofText a)) ↔ ¬ Clashes t := by
  induction t using List.reverseRecOn with
  | nil =>
    constructor
    · rintro - ⟨a, c, b, hsplit, -⟩
      exact absurd hsplit (by simp)
    · intro _ a ha
      rw [List.prefix_nil.mp ha]
      rfl
  | append_singleton t c ih =>
    rw [not_clashes_snoc_iff, ← ih]
    simp only [List.prefix_concat_iff]
    constructor
    · intro h
      refine ⟨fun a ha => h a (Or.inr ha), ?_⟩
      rw [← agree_step_iff (h t (Or.inr (List.prefix_refl t))), ← span_step]
      have hlast := h (t ++ [c]) (Or.inl rfl)
      rw [scan_append, ofText_append] at hlast
      exact hlast
    · rintro ⟨ht, hc⟩ a (rfl | ha)
      · rw [scan_append, ofText_append, List.foldl_cons, List.foldl_nil, span_step]
        exact (agree_step_iff (ht t (List.prefix_refl t))).mpr hc
      · exact ht a ha

instance (t : Text) : Decidable (Clashes t) :=
  decidable_of_iff (¬ ∀ a ∈ t.inits, Agree (scan a).span (ofText a)) (by
    simp only [List.mem_inits, agree_prefixes_iff, not_not])

theorem closed_iff_of_agree {span : Span} {o : OpenSpan} (h : Agree span o) :
    span = .plain ↔ o.Closed := by
  cases span with
  | plain =>
    cases h
    decide
  | quoted =>
    cases h
    decide
  | bracketed =>
    have hopen : o.bracketOpen = true := by
      unfold bracketOpen
      rw [show o.depth = 1 from h]
      decide
    simp [OpenSpan.Closed, hopen]

/-! ## Complete answers -/

/-- A stream calls the text complete. -/
def Completes (t : Text) : Prop := ∃ r, stream t = .ok r ∧ r.complete = true

/-- The grammar accepts the text. -/
def Accepted (t : Text) : Prop := ∃ w, Grammar.parse t = .ok w

/-- A complete answer shows a block that has been read. -/
theorem exists_finished_of_completes {t : Text} (h : Completes t) :
    ∃ w, finished? (trim t) = some w := by
  obtain ⟨r, hr, hcomplete⟩ := h
  rcases answer_cases hr with ⟨-, rfl⟩ | ⟨-, -, ⟨-, rfl⟩ | ⟨-, rfl⟩⟩ | ⟨k, -, ⟨w, hw, -⟩ | hr⟩
  · exact absurd hcomplete (by simp [refused])
  · exact absurd hcomplete (by simp [undecided])
  · exact absurd hcomplete (by simp [refused])
  · exact ⟨w, hw⟩
  · obtain ⟨shown, pending, rfl, -⟩ := hr
    exact absurd hcomplete (by simp [unfinished])

/-- **What makes a stream call a block complete**: the grammar accepts it, and the stream's own
scanner ends it with nothing open. -/
theorem completes_iff {t : Text} {k : Keyword} (hk : Keyword.leadingWord (trim t) = k.text) :
    Completes t ↔ Accepted t ∧ (ofText (trim t)).Closed := by
  constructor
  · intro h
    obtain ⟨w, hw⟩ := exists_finished_of_completes h
    obtain ⟨hclosed, hparse⟩ := finished?_eq_some_iff.mp hw
    rw [Grammar.parse_trim] at hparse
    exact ⟨⟨w, hparse⟩, hclosed⟩
  · rintro ⟨⟨w, hparse⟩, hclosed⟩
    rw [← Grammar.parse_trim] at hparse
    have hw := finished?_eq_some_iff.mpr ⟨hclosed, hparse⟩
    rcases stream_cases t with ⟨hnil, -⟩ | ⟨-, hnone, -⟩ | ⟨k', -, ⟨w', -, hs⟩ | ⟨hnone, -⟩⟩
    · rw [hnil] at hk
      exact absurd hk.symm (Keyword.text_ne_nil k)
    · rw [hk, Keyword.ofText?_text] at hnone
      exact absurd hnone (by simp)
    · exact ⟨_, hs, rfl⟩
    · rw [hw] at hnone
      exact absurd hnone (by simp)

/-! ## Quotes that stay open -/

/-- White space neither opens nor closes anything. -/
theorem step_of_isBlank {o : OpenSpan} (ho : ∀ q, o.quote = some q → isQuote q = true) {c : Char}
    (hc : isBlank c = true) : o.step c = o := by
  have hquote : isQuote c = false := by
    cases h : isQuote c with
    | false => rfl
    | true =>
      rw [isQuote, Bool.or_eq_true, beq_iff_eq, beq_iff_eq] at h
      rcases h with rfl | rfl
      · exact absurd hc (by decide)
      · exact absurd hc (by decide)
  unfold OpenSpan.step
  split
  · rename_i q hq
    have hne : c ≠ q := by
      rintro rfl
      rw [ho c hq] at hquote
      exact absurd hquote (by simp)
    rw [if_neg hne]
  · have hopen : c ≠ '[' := by
      rintro rfl
      exact absurd hc (by decide)
    have hclose : c ≠ ']' := by
      rintro rfl
      exact absurd hc (by decide)
    simp [hquote, hopen, hclose]

theorem ofText_append_blank {b : Text} (hb : Blank b) (t : Text) : ofText (t ++ b) = ofText t := by
  induction b using List.reverseRecOn with
  | nil => rw [List.append_nil]
  | append_singleton b c ih =>
    rw [← List.append_assoc, ofText_append, ih fun d hd => hb d (by simp [hd])]
    exact step_of_isBlank (fun q hq => isQuote_of_quote_ofText hq) (hb c (by simp))

/-- Trimming a text leaves open what is open. -/
theorem ofText_trim (t : Text) : ofText (trim t) = ofText t := by
  obtain ⟨a, b, ha, hb, ht⟩ := exists_frame t
  have hfront : ofText a = OpenSpan.start := by
    rw [← List.nil_append a, ofText_append_blank ha]
    rfl
  conv_rhs => rw [ht, ofText_append_blank hb, ofText_append, hfront]
  rfl

theorem quote_foldl_of_not_mem {o : OpenSpan} {q : Char} (ho : o.quote = some q) {x : Text}
    (hx : q ∉ x) : (x.foldl OpenSpan.step o).quote = some q := by
  induction x generalizing o with
  | nil => exact ho
  | cons c x ih =>
    rw [List.mem_cons, not_or] at hx
    refine ih ?_ hx.2
    unfold OpenSpan.step
    rw [ho]
    dsimp only
    rw [if_neg (Ne.symm hx.1)]
    exact ho

/-- **A quote that is open keeps a text from being complete** until the quote arrives again,
whatever else arrives. -/
theorem not_completes_of_open_quote {t x : Text} {q : Char} (ht : (ofText t).quote = some q)
    (hx : q ∉ x) : ¬ Completes (t ++ x) := by
  intro h
  obtain ⟨w, hw⟩ := exists_finished_of_completes h
  obtain ⟨⟨-, hclosed⟩, -⟩ := finished?_eq_some_iff.mp hw
  rw [ofText_trim, ofText_append, quoteOpen, quote_foldl_of_not_mem ht hx] at hclosed
  exact absurd hclosed (by simp)

/-! ## Convergence -/

/-- A stream calls the text complete exactly if the grammar accepts it and the tokenizer ends it
outside every span. -/
def Converges (t : Text) : Prop := Completes t ↔ Accepted t ∧ (scan (trim t)).span = .plain

/-- **Exactly when a stream converges.** Over a block that the grammar refuses it always does, and
over an accepted one exactly if the two scanners agree on whether its end is inside a span. They
agree on every text without a clash. -/
theorem converges_iff {t : Text} {k : Keyword} (hk : Keyword.leadingWord (trim t) = k.text) :
    (Completes t ↔ Accepted t ∧ (ofText (trim t)).Closed) ∧
      (Converges t ↔
        (Accepted t → ((scan (trim t)).span = .plain ↔ (ofText (trim t)).Closed))) ∧
      (¬ Clashes (trim t) → Converges t) := by
  have hiff : Converges t ↔
      (Accepted t → ((scan (trim t)).span = .plain ↔ (ofText (trim t)).Closed)) := by
    unfold Converges
    rw [completes_iff hk, and_congr_right_iff]
    exact imp_congr_right fun _ => Iff.comm
  refine ⟨completes_iff hk, hiff, fun hclash => hiff.mpr ?_⟩
  intro _
  have hagree := agree_prefixes_iff.mpr hclash (trim t) (List.prefix_refl _)
  exact closed_iff_of_agree hagree

/-- A block with an array and a quote in it, and no clash. -/
theorem converges_select :
    Keyword.leadingWord (trim "select env [dev \"a b\"]".toList) = Keyword.select.text ∧
      ¬ Clashes (trim "select env [dev \"a b\"]".toList) ∧
      Converges "select env [dev \"a b\"]".toList := by
  have hword : Keyword.leadingWord (trim "select env [dev \"a b\"]".toList) =
      Keyword.select.text := rfl
  have hclash : ¬ Clashes (trim "select env [dev \"a b\"]".toList) := by decide +kernel
  exact ⟨hword, hclash, (converges_iff hword).2.2 hclash⟩

/-- **A stream need not converge.** The grammar accepts the first block, but its apostrophe keeps the
stream waiting, whatever arrives without another one. The array of the second block is open, but
apostrophes hide its bracket from the stream. -/
theorem not_converges_apostrophe :
    (Keyword.leadingWord (trim "text-input name it\x27s".toList) = Keyword.textInput.text ∧
        ¬ Converges "text-input name it\x27s".toList ∧
        ∀ x, '\x27' ∉ x → ¬ Completes ("text-input name it\x27s".toList ++ x)) ∧
      Keyword.leadingWord (trim "text-input a \x27[b\x27".toList) = Keyword.textInput.text ∧
        ¬ Converges "text-input a \x27[b\x27".toList := by
  have hopen : (ofText "text-input name it\x27s".toList).quote = some '\x27' := rfl
  have hwaits : ∀ x, '\x27' ∉ x → ¬ Completes ("text-input name it\x27s".toList ++ x) :=
    fun x hx => not_completes_of_open_quote hopen hx
  refine ⟨⟨rfl, ?_, hwaits⟩, rfl, ?_⟩
  · intro h
    exact hwaits [] (by simp) (h.mpr ⟨⟨_, rfl⟩, rfl⟩)
  · intro h
    have hcompletes : Completes "text-input a \x27[b\x27".toList := ⟨_, rfl, rfl⟩
    exact absurd (h.mp hcompletes).2 (by decide)

end Streaming

end Widgetry
