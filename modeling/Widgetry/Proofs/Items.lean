import Widgetry.ArrayLiteral
import Widgetry.Proofs.Scalars

/-!
# Items

The item scanner keeps characters in the items that it has finished and in the item that it reads,
and drops quotes, separators and blanks. So every item is a scalar, and no character stands in the
items more often than in the text (`count_flatten_items_le`).

A double quote is kept only inside of other quotes. The canonical dialect has no others, so the last
reading of an array drops every double quote (`quotable_of_mem_parse`). In the liberal dialect it is
kept between apostrophes, and these are dropped: if an item has a double quote, the text has an
apostrophe that is in no item (`count_flatten_items_lt`).
-/

namespace Widgetry.ArrayLiteral

open Text

namespace ItemScan

/-! ## One character -/

/-- The current item ends as no item or as its trimmed characters. -/
theorem flush_cases (s : ItemScan) :
    (trim s.current.reverse = [] ∧ s.flush = ⟨s.items, [], s.quote⟩) ∨
      (trim s.current.reverse ≠ [] ∧
        s.flush = ⟨trim s.current.reverse :: s.items, [], s.quote⟩) := by
  unfold flush
  split
  · rename_i h
    exact Or.inl ⟨h, rfl⟩
  · rename_i h
    exact Or.inr ⟨h, rfl⟩

theorem current_flush (s : ItemScan) : s.flush.current = [] := by
  rcases flush_cases s with ⟨-, hflush⟩ | ⟨-, hflush⟩ <;> rw [hflush]

theorem quote_flush (s : ItemScan) : s.flush.quote = s.quote := by
  rcases flush_cases s with ⟨-, hflush⟩ | ⟨-, hflush⟩ <;> rw [hflush]

/-- One character in any dialect: it ends a quote, is kept, begins a quote, or ends an item. -/
theorem step_cases (d : Dialect) (s : ItemScan) (c : Char) :
    (s.quote = some c ∧ s.step d c = ⟨s.items, s.current, none⟩) ∨
      (s.quote ≠ some c ∧ (s.quote = none → c ∉ d.quotes) ∧
        s.step d c = ⟨s.items, c :: s.current, s.quote⟩) ∨
      (s.quote = none ∧ c ∈ d.quotes ∧ s.step d c = ⟨s.items, s.current, some c⟩) ∨
      (s.quote = none ∧ s.step d c = s.flush) := by
  unfold step
  cases hquote : s.quote with
  | some q =>
    by_cases hc : c = q
    · exact Or.inl ⟨by rw [hc], if_pos hc⟩
    · exact Or.inr (Or.inl ⟨fun h => hc (Option.some.inj h).symm, by simp, if_neg hc⟩)
  | none =>
    by_cases hc : c ∈ d.quotes
    · exact Or.inr (Or.inr (Or.inl ⟨rfl, hc, if_pos hc⟩))
    · by_cases hseparator : c ∈ d.separators
      · exact Or.inr (Or.inr (Or.inr ⟨rfl, by simp [hc, hseparator]⟩))
      · exact Or.inr (Or.inl ⟨by simp, fun _ => hc, by simp [hc, hseparator]⟩)

/-! ## Items are scalars -/

theorem scalar_of_mem_flush {s : ItemScan} (h : ∀ x ∈ s.items, Scalar x) :
    ∀ x ∈ s.flush.items, Scalar x := by
  intro x hx
  rcases flush_cases s with ⟨-, hflush⟩ | ⟨hne, hflush⟩
  · rw [hflush] at hx
    exact h x hx
  · rw [hflush] at hx
    rcases List.mem_cons.mp hx with rfl | hx
    · exact scalar_trim hne
    · exact h x hx

theorem scalar_of_mem_foldl (d : Dialect) (t : Text) :
    ∀ x ∈ (t.foldl (step d) start).items, Scalar x := by
  induction t using List.reverseRecOn with
  | nil => simp [start]
  | append_singleton t c ih =>
    rw [List.foldl_append, List.foldl_cons, List.foldl_nil]
    rcases step_cases d (t.foldl (step d) start) c with
      ⟨-, hstep⟩ | ⟨-, -, hstep⟩ | ⟨-, -, hstep⟩ | ⟨-, hstep⟩
    · rw [hstep]
      exact ih
    · rw [hstep]
      exact ih
    · rw [hstep]
      exact ih
    · rw [hstep]
      exact scalar_of_mem_flush ih

/-! ## Kept characters -/

/-- The characters of the items, and of the item that is being read. -/
def kept (s : ItemScan) : Text := s.items.flatten ++ s.current

/-- Ending an item drops blanks. -/
theorem count_kept_flush_le (s : ItemScan) (c : Char) : s.flush.kept.count c ≤ s.kept.count c := by
  obtain ⟨a, b, -, -, hframe⟩ := exists_frame s.current.reverse
  have hcount := congrArg (List.count c) hframe
  simp only [List.count_append, List.count_reverse] at hcount
  rcases flush_cases s with ⟨-, hflush⟩ | ⟨-, hflush⟩
  · rw [hflush]
    simp [kept]
  · rw [hflush]
    simp only [kept, List.flatten_cons, List.append_nil, List.count_append]
    omega

/-- A character is kept once at most. -/
theorem count_kept_step_le (d : Dialect) (s : ItemScan) (c e : Char) :
    (s.step d c).kept.count e ≤ s.kept.count e + [c].count e := by
  rcases step_cases d s c with ⟨-, hstep⟩ | ⟨-, -, hstep⟩ | ⟨-, -, hstep⟩ | ⟨-, hstep⟩
  · rw [hstep]
    exact Nat.le_add_right _ _
  · rw [hstep, kept, kept, ← List.singleton_append (l := s.current)]
    simp only [List.count_append]
    omega
  · rw [hstep]
    exact Nat.le_add_right _ _
  · rw [hstep]
    exact Nat.le_add_right_of_le (count_kept_flush_le s e)

theorem count_kept_foldl_le (d : Dialect) (t : Text) (c : Char) :
    (t.foldl (step d) start).kept.count c ≤ t.count c := by
  induction t using List.reverseRecOn with
  | nil => simp [kept, start]
  | append_singleton t e ih =>
    rw [List.foldl_append, List.foldl_cons, List.foldl_nil, List.count_append]
    exact (count_kept_step_le d _ e c).trans (Nat.add_le_add_right ih _)

/-! ## Kept double quotes -/

/-- The scanner has kept a double quote, or it is inside of other quotes and would keep one. -/
def Hides (s : ItemScan) : Prop := (∃ q, s.quote = some q ∧ q ≠ '"') ∨ '"' ∈ s.kept

theorem mem_kept_of_flush {s : ItemScan} {c : Char} (h : c ∈ s.flush.kept) : c ∈ s.kept :=
  List.count_pos_iff.mp ((List.count_pos_iff.mpr h).trans_le (count_kept_flush_le s c))

/-- Only a quote of another kind, which is dropped, makes the scanner hide double quotes. -/
theorem hides_of_step {d : Dialect} (hd : '"' ∈ d.quotes) {s : ItemScan} {c : Char}
    (h : (s.step d c).Hides) :
    s.Hides ∨ (c ∈ d.quotes ∧ c ≠ '"' ∧ (s.step d c).kept = s.kept) := by
  rcases step_cases d s c with
    ⟨-, hstep⟩ | ⟨hopen, hbare, hstep⟩ | ⟨-, hquote, hstep⟩ | ⟨hnone, hstep⟩
  · rw [hstep] at h
    rcases h with ⟨q, hq, -⟩ | hmem
    · exact absurd hq (by simp)
    · exact Or.inl (Or.inr hmem)
  · rw [hstep] at h
    rcases h with hother | hmem
    · exact Or.inl (Or.inl hother)
    · have hcases : c = '"' ∨ '"' ∈ s.kept := by
        simpa [kept, eq_comm, or_left_comm, or_assoc] using hmem
      rcases hcases with rfl | hmem
      · -- a double quote is kept inside of other quotes only
        obtain ⟨q, hq⟩ : ∃ q, s.quote = some q :=
          Option.ne_none_iff_exists'.mp fun hnone => hbare hnone hd
        exact Or.inl (Or.inl ⟨q, hq, fun hdouble => hopen (hdouble ▸ hq)⟩)
      · exact Or.inl (Or.inr hmem)
  · rw [hstep] at h ⊢
    rcases h with ⟨q, hq, hne⟩ | hmem
    · obtain rfl : c = q := by simpa using hq
      exact Or.inr ⟨hquote, hne, rfl⟩
    · exact Or.inl (Or.inr hmem)
  · rw [hstep] at h
    rcases h with ⟨q, hq, -⟩ | hmem
    · rw [quote_flush, hnone] at hq
      exact absurd hq (by simp)
    · exact Or.inl (Or.inr (mem_kept_of_flush hmem))

theorem not_hides_start : ¬ start.Hides := by
  simp [Hides, kept, start]

/-- The canonical dialect has no other quotes. -/
theorem not_hides_canonical (t : Text) : ¬ (t.foldl (step .canonical) start).Hides := by
  induction t using List.reverseRecOn with
  | nil => exact not_hides_start
  | append_singleton t c ih =>
    intro h
    rw [List.foldl_append, List.foldl_cons, List.foldl_nil] at h
    rcases hides_of_step (by simp [Dialect.canonical]) h with hbefore | ⟨hquote, hne, -⟩
    · exact ih hbefore
    · exact hne (by simpa [Dialect.canonical] using hquote)

/-- In the liberal dialect the others are apostrophes, so that one of them has been dropped. -/
theorem count_kept_lt_of_hides {t : Text} (h : (t.foldl (step .liberal) start).Hides) :
    (t.foldl (step .liberal) start).kept.count '\x27' < t.count '\x27' := by
  induction t using List.reverseRecOn with
  | nil => exact absurd h not_hides_start
  | append_singleton t c ih =>
    rw [List.foldl_append, List.foldl_cons, List.foldl_nil] at h ⊢
    rw [List.count_append]
    rcases hides_of_step (by simp [Dialect.liberal]) h with hbefore | ⟨hquote, hne, hkept⟩
    · have hstep := count_kept_step_le .liberal (t.foldl (step .liberal) start) c '\x27'
      have hlt := ih hbefore
      omega
    · -- the apostrophe stands in the text and is not kept
      obtain rfl : c = '\x27' := by simpa [Dialect.liberal, hne] using hquote
      have hle := count_kept_foldl_le .liberal t '\x27'
      rw [hkept, List.count_singleton_self]
      omega

end ItemScan

open ItemScan

/-! ## Items of a text -/

theorem scalar_of_mem_items {d : Dialect} {t x : Text} (h : x ∈ items d t) : Scalar x := by
  rw [items, List.mem_reverse] at h
  exact scalar_of_mem_flush (scalar_of_mem_foldl d t) x h

theorem mem_kept_of_mem_items {d : Dialect} {t x : Text} (h : x ∈ items d t) {c : Char}
    (hc : c ∈ x) : c ∈ (t.foldl (step d) start).kept := by
  rw [items, List.mem_reverse] at h
  exact mem_kept_of_flush (List.mem_append_left _ (List.mem_flatten.mpr ⟨x, h, hc⟩))

theorem mem_of_mem_items {d : Dialect} {t x : Text} (h : x ∈ items d t) {c : Char} (hc : c ∈ x) :
    c ∈ t := by
  have hkept := List.count_pos_iff.mpr (mem_kept_of_mem_items h hc)
  exact List.count_pos_iff.mp (hkept.trans_le (count_kept_foldl_le d t c))

theorem count_flatten_items_le_kept (d : Dialect) (t : Text) (c : Char) :
    (items d t).flatten.count c ≤ (t.foldl (step d) start).kept.count c := by
  have hitems : (items d t).flatten.count c = (t.foldl (step d) start).flush.kept.count c := by
    rw [items, kept, current_flush, List.append_nil, List.count_flatten, List.count_flatten,
      List.map_reverse, List.sum_reverse]
  rw [hitems]
  exact count_kept_flush_le _ c

/-- **No character is in the items more often than in the text.** -/
theorem count_flatten_items_le (d : Dialect) (t : Text) (c : Char) :
    (items d t).flatten.count c ≤ t.count c :=
  (count_flatten_items_le_kept d t c).trans (count_kept_foldl_le d t c)

/-- **Where an item has a double quote, the text has an apostrophe that is in no item.** -/
theorem count_flatten_items_lt {t x : Text} (h : x ∈ items .liberal t) (hx : '"' ∈ x) :
    (items .liberal t).flatten.count '\x27' < t.count '\x27' :=
  (count_flatten_items_le_kept .liberal t _).trans_lt
    (count_kept_lt_of_hides (Or.inr (mem_kept_of_mem_items h hx)))

/-- An item has a double quote only if the text has both kinds of quotes. -/
theorem mixed_of_mem_items {t x : Text} (h : x ∈ items .liberal t) (hx : '"' ∈ x) :
    '"' ∈ t ∧ '\x27' ∈ t :=
  ⟨mem_of_mem_items h hx,
    List.count_pos_iff.mp ((Nat.zero_le _).trans_lt (count_flatten_items_lt h hx))⟩

theorem quotable_of_mem_items {content item : Text} (h : item ∈ items .canonical content) :
    Quotable item :=
  ⟨scalar_of_mem_items h,
    fun hquote => not_hides_canonical content (Or.inr (mem_kept_of_mem_items h hquote))⟩

/-- **Every item of an array is a scalar without double quotes.** -/
theorem quotable_of_mem_parse {t : Text} {xs : List Text} (h : parse t = .ok xs) :
    ∀ x ∈ xs, Quotable x := by
  intro x hx
  unfold parse at h
  split at h
  · split at h
    · rw [← Except.ok.inj h] at hx
      exact absurd hx (by simp)
    · rw [← Except.ok.inj h] at hx
      exact quotable_of_mem_items hx
  · exact absurd h (by simp)

end Widgetry.ArrayLiteral
