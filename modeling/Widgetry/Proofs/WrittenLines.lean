import Widgetry.Proofs.Dispatch
import Widgetry.Proofs.Separators
import Widgetry.Proofs.WrittenArrays

/-!
# Lines that have been written

A written part closes its spans and is one token: a text in quotes is read as the text, and an array
and a plain word are read as they stand (`readAs_quoted`, `readAs_array`, `readAs_word`). Single
spaces keep the parts of a line apart, so a line that begins with a keyword goes to the grammar of
that keyword with the tokens of its parts (`parseWith_spaced`). If parts that are not set come after
all that are, every token has the position of its part (`getElem?_filterMap`).
-/

namespace Widgetry

open Text Scan

namespace Writer

/-! ## One part -/

/-- The part is one token of a line. -/
structure ReadAs (part token : Text) : Prop where
  scalar : Scalar part
  closes : Closes part
  tokens : tokenize part = [token]

theorem readAs_word {word : Text} (hne : word ≠ [])
    (hword : ∀ c ∈ word, IsPlain c ∧ isBlank c = false) : ReadAs word word := by
  have hscan := scan_of_isPlain fun c hc => (hword c hc).1
  refine ⟨⟨hne, ?_⟩, by rw [Closes, hscan], ?_⟩
  · rw [trimmed_iff, trim_of_ink fun c hc => (hword c hc).2]
  · rw [tokenize, hscan, flush_of_ink hne fun c hc => (hword c hc).2]
    rfl

/-- Characters that are kept, one by one, are all there at the end. -/
theorem foldl_step_of_kept {span : Span} {t : Text}
    (h : ∀ c ∈ t, ∀ current, step ⟨[], current, span⟩ c = ⟨[], c :: current, span⟩)
    (current : Text) : t.foldl step ⟨[], current, span⟩ = ⟨[], t.reverse ++ current, span⟩ := by
  induction t generalizing current with
  | nil => rfl
  | cons c t ih =>
    rw [List.foldl_cons, h c List.mem_cons_self, ih fun e he => h e (List.mem_cons_of_mem c he),
      List.reverse_cons, List.append_assoc, List.singleton_append]

theorem scan_quoted {t : Text} (ht : '"' ∉ t) : scan (quoted t) = ⟨[], t.reverse, .plain⟩ := by
  have hopen : step start '"' = ⟨[], [], .quoted⟩ := rfl
  have hkept : ∀ c ∈ t, ∀ current, step ⟨[], current, .quoted⟩ c = ⟨[], c :: current, .quoted⟩ := by
    intro c hc current
    have hne : c ≠ '"' := fun h => ht (h ▸ hc)
    simp [step, push, hne]
  rw [scan, quoted, List.cons_append, List.foldl_cons, hopen, List.foldl_append,
    foldl_step_of_kept hkept, List.append_nil]
  rfl

/-- **A text in quotes is read as the text.** -/
theorem readAs_quoted {t : Text} (ht : Quotable t) : ReadAs (quoted t) t := by
  have hscan := scan_quoted ht.unquoted
  refine ⟨scalar_quoted t, by rw [Closes, hscan], ?_⟩
  have htrim : trim t.reverse.reverse = t := by rw [List.reverse_reverse, trim_eq_self ht.trimmed]
  rcases flush_cases ⟨[], t.reverse, .plain⟩ with ⟨hnil, -⟩ | ⟨-, hflush⟩
  · exact absurd (htrim.symm.trans hnil) ht.ne_nil
  · rw [tokenize, hscan, hflush, htrim]
    rfl

theorem not_mem_quoted {c : Char} (hquote : c ≠ '"') {t : Text} (h : c ∉ t) : c ∉ quoted t := by
  simp [quoted, hquote, h]

/-- What is written between the brackets of an array comes from its items, the quotes around them
and the spaces between them. -/
theorem not_mem_inner_array {c : Char} (hquote : c ≠ '"') (hspace : c ≠ ' ') {xs : List Text}
    (h : ∀ x ∈ xs, c ∉ x) : c ∉ [' '].intercalate (xs.map quoted) := by
  apply not_mem_intercalate hspace
  intro piece hpiece
  obtain ⟨x, hx, rfl⟩ := List.mem_map.mp hpiece
  exact not_mem_quoted hquote (h x hx)

/-- **An array is read as it stands**, if its items have no brackets. -/
theorem readAs_array {xs : List Text} (h : ∀ x ∈ xs, '[' ∉ x ∧ ']' ∉ x) :
    ReadAs (array xs) (array xs) := by
  have hopening : '[' ∉ [' '].intercalate (xs.map quoted) :=
    not_mem_inner_array (by decide) (by decide) fun x hx => (h x hx).1
  have hclosing : ']' ∉ [' '].intercalate (xs.map quoted) :=
    not_mem_inner_array (by decide) (by decide) fun x hx => (h x hx).2
  have hscan : scan (array xs) = ⟨[array xs], [], .plain⟩ := by
    have hopen : step start '[' = ⟨[], [], .bracketed⟩ := rfl
    have hkept : ∀ c ∈ [' '].intercalate (xs.map quoted), ∀ current,
        step ⟨[], current, .bracketed⟩ c = ⟨[], c :: current, .bracketed⟩ := by
      intro c hc current
      have hne : c ≠ '[' ∧ c ≠ ']' := ⟨fun h => hopening (h ▸ hc), fun h => hclosing (h ▸ hc)⟩
      simp [step, push, hne]
    have hclose : ∀ current, step ⟨[], current, .bracketed⟩ ']' =
        ⟨['[' :: trim current.reverse ++ [']']], [], .plain⟩ := fun _ => rfl
    rw [scan, array, List.cons_append, List.foldl_cons, hopen, List.foldl_append,
      foldl_step_of_kept hkept, List.append_nil, List.foldl_cons, hclose,
      List.reverse_reverse, trim_eq_self (trimmed_inner_array xs)]
    rfl
  refine ⟨scalar_array xs, by rw [Closes, hscan], ?_⟩
  rw [tokenize, hscan]
  rfl

/-! ## All parts -/

theorem flatMap_tokenize {parts tokens : List Text} (h : List.Forall₂ ReadAs parts tokens) :
    parts.flatMap tokenize = tokens := by
  induction h with
  | nil => rfl
  | cons hpart _ ih => rw [List.flatMap_cons, hpart.tokens, ih, List.singleton_append]

theorem readAs_keyword (k : Keyword) : ReadAs k.text k.text :=
  readAs_word k.text_ne_nil k.isPlain_of_mem_text

theorem rel_map {α : Type} {R : Text → Text → Prop} {write token : α → Text} {part : Option α}
    (h : ∀ a ∈ part, R (write a) (token a)) :
    Option.Rel R (part.map write) (part.map token) := by
  cases part with
  | none => exact .none
  | some a => exact .some (h a rfl)

theorem rel_quoted {part : Option Text} (h : ∀ t ∈ part, Quotable t) :
    Option.Rel ReadAs (part.map quoted) part := by
  cases part with
  | none => exact .none
  | some t => exact .some (readAs_quoted (h t rfl))

section Spaced

variable {word : Text} {parts tokens : List (Option Text)}

/-- The parts of a line and their tokens, the first word included. -/
theorem forall₂_readAs (hword : ReadAs word word)
    (h : List.Forall₂ (Option.Rel ReadAs) parts tokens) :
    List.Forall₂ ReadAs (word :: parts.filterMap id) (word :: tokens.filterMap id) :=
  .cons hword (List.rel_filterMap (fun _ _ hrel => hrel) h)

theorem scalar_spaced (hword : ReadAs word word)
    (h : List.Forall₂ (Option.Rel ReadAs) parts tokens) : Scalar (spaced word parts) := by
  refine scalar_intercalate ?_ (by simp)
  intro part hpart
  obtain ⟨token, -, hread⟩ := Outcome.exists_of_mem_forall₂ (forall₂_readAs hword h) hpart
  exact hread.scalar

theorem closes_of_mem_parts (hword : ReadAs word word)
    (h : List.Forall₂ (Option.Rel ReadAs) parts tokens) :
    ∀ part ∈ word :: parts.filterMap id, Closes part := by
  intro part hpart
  obtain ⟨token, -, hread⟩ := Outcome.exists_of_mem_forall₂ (forall₂_readAs hword h) hpart
  exact hread.closes

theorem tokenize_spaced (hword : ReadAs word word)
    (h : List.Forall₂ (Option.Rel ReadAs) parts tokens) :
    tokenize (spaced word parts) = word :: tokens.filterMap id := by
  rw [spaced, tokenize_intercalate (closes_of_mem_parts hword h),
    flatMap_tokenize (forall₂_readAs hword h)]

end Spaced

/-- **A written line goes to the grammar of its keyword**, with the tokens of its parts. -/
theorem parseWith_spaced {child : Text → Except ParseError Widget} {k : Keyword}
    {parts tokens : List (Option Text)} (h : List.Forall₂ (Option.Rel ReadAs) parts tokens) :
    Grammar.parseWith child (spaced k.text parts) =
      Grammar.readBlock child k (tokens.filterMap id) (spaced k.text parts) := by
  have hword := readAs_keyword k
  simp only [Grammar.parseWith, trim_eq_self (scalar_spaced hword h).trimmed,
    tokenize_spaced hword h, Keyword.ofText?_text]

/-! ## Positions -/

/-- The parts that are set come before those that are not. -/
def Leading (parts : List (Option Text)) : Prop :=
  (parts.map Option.isSome).Pairwise fun earlier later => later = true → earlier = true

instance (parts : List (Option Text)) : Decidable (Leading parts) :=
  inferInstanceAs (Decidable (List.Pairwise _ _))

theorem leading_of_rel {R : Text → Text → Prop} {parts tokens : List (Option Text)}
    (h : List.Forall₂ (Option.Rel R) parts tokens) (hparts : Leading parts) : Leading tokens := by
  have hset : parts.map Option.isSome = tokens.map Option.isSome := by
    clear hparts
    induction h with
    | nil => rfl
    | cons hpart _ ih =>
      rw [List.map_cons, List.map_cons, ih]
      cases hpart with
      | none => rfl
      | some _ => rfl
  rw [Leading, ← hset]
  exact hparts

/-- **The tokens that are set keep their positions**, if they come first. -/
theorem getElem?_filterMap {tokens : List (Option Text)} (h : Leading tokens) (n : Nat) :
    (tokens.filterMap id)[n]? = (tokens[n]?).join := by
  induction tokens generalizing n with
  | nil => rfl
  | cons token tokens ih =>
    rw [Leading, List.map_cons, List.pairwise_cons] at h
    obtain ⟨hfirst, hrest⟩ := h
    cases token with
    | some t =>
      cases n with
      | zero => rfl
      | succ n => exact ih hrest n
    | none =>
      -- nothing is set after a part that is not
      have hnone : ∀ token ∈ tokens, token = none := by
        intro token htoken
        cases token with
        | none => rfl
        | some t => exact absurd (hfirst true (List.mem_map.mpr ⟨some t, htoken, rfl⟩) rfl) (by simp)
      have hnil : tokens.filterMap id = [] := List.filterMap_eq_nil_iff.mpr hnone
      rw [List.filterMap_cons_none rfl, hnil]
      cases n with
      | zero => rfl
      | succ n =>
        rw [List.getElem?_nil, List.getElem?_cons_succ]
        cases hn : tokens[n]? with
        | none => rfl
        | some token => rw [hnone token (List.mem_of_getElem? hn)]; rfl

end Writer

end Widgetry
