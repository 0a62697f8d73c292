import Mathlib.Data.List.TakeWhile
import Widgetry.Text.Basic

/-!
# Lines and other pieces

The pieces of a text hold no separator (`not_mem_of_mem_pieces`), and a text without separators is
one piece (`cut_of_not_mem`). So a line that is taken from a block has no further lines. The pieces
of a longer text are those on both sides of a separator (`cut_append_separator`), so pieces that have
been joined are found again (`cut_intercalate`).

A text is cut in two at its first separator, if it has one (`cutFirst?_eq_some_iff`).
-/

namespace Widgetry.Text

variable {p : Char → Bool}

theorem cut_of_not_mem {t : Text} (h : ∀ c ∈ t, p c = false) : cut p t = (t, []) := by
  induction t with
  | nil => rfl
  | cons c t ih =>
    rw [cut_cons_of_neg t (h c List.mem_cons_self), ih fun d hd => h d (List.mem_cons_of_mem c hd)]

theorem not_mem_of_mem_pieces {t piece : Text} (h : piece ∈ pieces p t) :
    ∀ c ∈ piece, p c = false := by
  induction t generalizing piece with
  | nil =>
    obtain rfl : piece = [] := by simpa [pieces] using h
    simp
  | cons c t ih =>
    simp only [pieces, List.mem_cons] at h ih
    cases hc : p c with
    | true =>
      rw [cut_cons_of_pos t hc] at h
      rcases h with rfl | h
      · simp
      · exact ih (List.mem_cons.mp h)
    | false =>
      rw [cut_cons_of_neg t hc] at h
      rcases h with rfl | h
      · intro d hd
        rcases List.mem_cons.mp hd with rfl | hd
        · exact hc
        · exact ih (Or.inl rfl) d hd
      · exact ih (Or.inr h)

/-- **A separator parts the pieces**: those before it, then those after it. -/
theorem cut_append_separator {c : Char} (hc : p c = true) (a b : Text) :
    cut p (a ++ c :: b) = ((cut p a).1, (cut p a).2 ++ pieces p b) := by
  induction a with
  | nil => rw [List.nil_append, cut_cons_of_pos b hc]; rfl
  | cons d a ih =>
    rw [List.cons_append]
    cases hd : p d with
    | true => rw [cut_cons_of_pos _ hd, cut_cons_of_pos a hd, ih]; rfl
    | false => rw [cut_cons_of_neg _ hd, cut_cons_of_neg a hd, ih]

/-- **Pieces that have been joined are found again.** -/
theorem cut_intercalate {sep : Char} (hsep : p sep = true) {first : Text} {others : List Text}
    (h : ∀ piece ∈ first :: others, ∀ c ∈ piece, p c = false) :
    cut p ([sep].intercalate (first :: others)) = (first, others) := by
  have hfirst : cut p first = (first, []) := cut_of_not_mem (h first List.mem_cons_self)
  induction others generalizing first with
  | nil => rwa [List.intercalate_singleton]
  | cons second others ih =>
    have hothers : ∀ piece ∈ second :: others, ∀ c ∈ piece, p c = false :=
      fun piece hpiece => h piece (List.mem_cons_of_mem first hpiece)
    have hrest := ih hothers (cut_of_not_mem (hothers second List.mem_cons_self))
    rw [List.intercalate_cons_cons, List.append_assoc, List.singleton_append,
      cut_append_separator hsep, hfirst, pieces, hrest]
    rfl

theorem beq_false_of_not_mem {sep : Char} {t : Text} (h : sep ∉ t) :
    ∀ c ∈ t, (c == sep) = false := by
  intro c hc
  simp only [beq_eq_false_iff_ne]
  rintro rfl
  exact h hc

theorem cut_intercalate_of_not_mem {sep : Char} {first : Text} {others : List Text}
    (h : ∀ piece ∈ first :: others, sep ∉ piece) :
    cut (· == sep) ([sep].intercalate (first :: others)) = (first, others) :=
  cut_intercalate (p := (· == sep)) (beq_self_eq_true sep) fun piece hpiece =>
    beq_false_of_not_mem (h piece hpiece)

theorem lines_of_not_mem {t : Text} (h : '\n' ∉ t) : lines t = (t, []) :=
  cut_of_not_mem (beq_false_of_not_mem h)

/-- A line of a text holds no line feed. -/
theorem not_mem_line {t line : Text} (h : line ∈ (lines t).1 :: (lines t).2) : '\n' ∉ line := by
  intro hmem
  have hline : line ∈ pieces (· == '\n') t := h
  exact absurd (not_mem_of_mem_pieces hline '\n' hmem) (by decide)

theorem not_mem_of_mem_lines {t line : Text} (h : line ∈ (lines t).2) : '\n' ∉ line :=
  not_mem_line (List.mem_cons_of_mem _ h)

/-! ## Two pieces -/

theorem cutFirst?_eq_none_iff {sep : Char} {t : Text} : cutFirst? sep t = none ↔ sep ∉ t := by
  unfold cutFirst?
  cases hd : t.dropWhile (· != sep) with
  | nil =>
    have hall := List.dropWhile_eq_nil_iff.mp hd
    simp only [true_iff]
    intro hmem
    simpa using hall sep hmem
  | cons c rest =>
    have hc := List.head?_dropWhile_not (· != sep) t
    rw [hd] at hc
    have hmem : c ∈ t := (List.dropWhile_suffix _).subset (hd ▸ List.mem_cons_self)
    simp only [List.head?_cons, bne_eq_false_iff_eq] at hc
    subst hc
    simp [hmem]

/-- A text without the separator in front does not matter for where the cut is. -/
theorem cutFirst?_append {sep : Char} {a : Text} (h : sep ∉ a) (b : Text) :
    cutFirst? sep (a ++ b) = (cutFirst? sep b).map fun x => (a ++ x.1, x.2) := by
  have hbefore : ∀ c ∈ a, (c != sep) = true := fun c hc => by
    rw [bne, beq_false_of_not_mem h c hc, Bool.not_false]
  rw [cutFirst?, List.dropWhile_append_of_pos hbefore, List.takeWhile_append_of_pos hbefore,
    cutFirst?]
  cases b.dropWhile (· != sep) <;> rfl

theorem cutFirst?_append_cons {sep : Char} {a : Text} (h : sep ∉ a) (b : Text) :
    cutFirst? sep (a ++ sep :: b) = some (a, b) := by
  rw [cutFirst?_append h]
  simp [cutFirst?]

theorem cutFirst?_eq_some_iff {sep : Char} {t a b : Text} :
    cutFirst? sep t = some (a, b) ↔ t = a ++ sep :: b ∧ sep ∉ a := by
  constructor
  · intro h
    have hparts : t.takeWhile (· != sep) ++ t.dropWhile (· != sep) = t :=
      List.takeWhile_append_dropWhile
    have hhead := List.head?_dropWhile_not (· != sep) t
    unfold cutFirst? at h
    split at h
    · cases h
    · rename_i c after hdrop
      obtain ⟨rfl, rfl⟩ := Prod.mk.inj (Option.some.inj h)
      rw [hdrop] at hparts hhead
      obtain rfl : c = sep := by simpa using hhead
      refine ⟨hparts.symm, ?_⟩
      intro hmem
      simpa using List.mem_takeWhile_imp hmem
  · rintro ⟨rfl, hnot⟩
    exact cutFirst?_append_cons hnot b

end Widgetry.Text
