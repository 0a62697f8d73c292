import Widgetry.Proofs.Closing
import Widgetry.Number.Literal

/-!
# Integer literals that are too long

Whether an integer literal is refused depends on its number of digits only
(`readInteger_eq_error_iff`). Trimming a text, or putting closers behind it, does not change that
number (`integerDigits_trim`, `integerDigits_append_closers`), for neither blanks nor closers are
digits. A text that begins with a bracket, or has no digits at all, holds no literal in front.
-/

namespace Widgetry

open Text Scan DecimalLiteral

/-! ## Digits -/

/-- The blanks, as ranges of code points. -/
def Text.blankRanges : List (Nat × Nat) :=
  [(0x09, 0x0D), (0x1C, 0x20), (0x85, 0x85), (0xA0, 0xA0), (0x1680, 0x1680), (0x2000, 0x200A),
    (0x2028, 0x2029), (0x202F, 0x202F), (0x205F, 0x205F), (0x3000, 0x3000)]

theorem Text.exists_blankRange {c : Char} (h : isBlank c = true) :
    ∃ range ∈ blankRanges, range.1 ≤ c.toNat ∧ c.toNat ≤ range.2 := by
  simp only [isBlank, Bool.or_eq_true, Bool.and_eq_true, decide_eq_true_eq, beq_iff_eq] at h
  simp only [blankRanges, List.exists_mem_cons_iff, List.not_mem_nil]
  omega

/-- No blank is a digit. -/
theorem Text.isDigit_of_isBlank {c : Char} (h : isBlank c = true) : isDigit c = false := by
  obtain ⟨range, hrange, hlow, hhigh⟩ := exists_blankRange h
  have hapart : ∀ z ∈ digitZeros, ∀ range ∈ blankRanges,
      range.2 < z ∨ z + 10 ≤ range.1 := by decide
  rw [isDigit, digitValue?, Option.isSome_map, Option.isSome_eq_false_iff, Option.isNone_iff_eq_none,
    List.find?_eq_none]
  intro z hz hdigit
  rw [Bool.and_eq_true, decide_eq_true_eq, decide_eq_true_eq] at hdigit
  rcases hapart z hz range hrange with h | h <;> omega

theorem isDigit_of_isCloser {c : Char} (h : IsCloser c) : isDigit c = false := by
  rcases h with rfl | rfl | rfl <;> decide

/-! ## The digits of an integer literal -/

/-- How many digits the integer literal at the front of a text has. -/
def integerDigits (t : Text) : Nat := ((takeSign (trimStart t)).2.takeWhile isDigit).length

/-- The integer literal at the front of a text is too long to be read. -/
def Oversized (t : Text) : Prop := maxIntegerDigits < integerDigits t

theorem Text.length_filterMap_digitValue? {row : Text} (h : ∀ c ∈ row, isDigit c = true) :
    (row.filterMap digitValue?).length = row.length :=
  List.filterMap_length_eq_length.mpr h

theorem length_takeDigits (t : Text) : (takeDigits t).1.length = (t.takeWhile isDigit).length :=
  length_filterMap_digitValue? fun _ hc => List.mem_takeWhile_imp hc

/-- **An integer literal is refused exactly for its length.** -/
theorem readInteger_eq_error_iff {t : Text} {e : OversizedInteger} :
    readInteger t = .error e ↔ Oversized t ∧ e = ⟨integerDigits t⟩ := by
  have hlength : (takeDigits (takeSign (trimStart t)).2).1.length = integerDigits t :=
    length_takeDigits _
  simp only [readInteger]
  split
  · rename_i hnil
    rw [hnil] at hlength
    simp [Oversized, ← hlength]
  · rw [hlength]
    split
    · rename_i hlong
      simp [Oversized, hlong, eq_comm]
    · rename_i hshort
      simp [Oversized, hshort]

theorem exists_readInteger_eq_error_iff {t : Text} :
    (∃ e, readInteger t = .error e) ↔ Oversized t := by
  constructor
  · rintro ⟨e, he⟩
    exact (readInteger_eq_error_iff.mp he).1
  · intro h
    exact ⟨_, readInteger_eq_error_iff.mpr ⟨h, rfl⟩⟩

/-! ## What does not change a literal -/

theorem takeWhile_append_of_head {p : Char → Bool} {x : Text} (hx : ∀ c ∈ x.head?, p c = false)
    (t : Text) : (t ++ x).takeWhile p = t.takeWhile p := by
  induction t with
  | nil =>
    cases x with
    | nil => rfl
    | cons c x => simp [hx c rfl]
  | cons c t ih => rw [List.cons_append, List.takeWhile_cons, List.takeWhile_cons, ih]

/-- A sign is the first character or none, so more text behind it does not matter. -/
theorem takeSign_append {t : Text} (ht : t ≠ []) (x : Text) :
    (takeSign (t ++ x)).2 = (takeSign t).2 ++ x := by
  cases t with
  | nil => exact absurd rfl ht
  | cons c t =>
    by_cases hminus : c = '-'
    · rw [hminus]; rfl
    by_cases hplus : c = '+'
    · rw [hplus]; rfl
    · simp [takeSign, hminus, hplus]

theorem integerDigits_of_blank {t : Text} (ht : Blank t) : integerDigits t = 0 := by
  rw [integerDigits, trimStart_eq_nil_iff.mpr ht]
  rfl

theorem integerDigits_append_of_ink {t x : Text} (ht : ¬ Blank t)
    (hx : ∀ c ∈ x.head?, isDigit c = false) : integerDigits (t ++ x) = integerDigits t := by
  have hne : trimStart t ≠ [] := fun h => ht (trimStart_eq_nil_iff.mp h)
  rw [integerDigits, trimStart_append ht, takeSign_append hne, takeWhile_append_of_head hx,
    integerDigits]

theorem integerDigits_append_blank {x : Text} (hx : Blank x) (t : Text) :
    integerDigits (t ++ x) = integerDigits t := by
  by_cases ht : Blank t
  · rw [integerDigits_of_blank (blank_append ht hx), integerDigits_of_blank ht]
  · exact integerDigits_append_of_ink ht fun c hc =>
      isDigit_of_isBlank (hx c (List.mem_of_mem_head? hc))

/-- **Trimming keeps the literal.** -/
theorem integerDigits_trim (t : Text) : integerDigits (trim t) = integerDigits t := by
  obtain ⟨a, b, ha, hb, ht⟩ := exists_frame t
  conv_rhs => rw [ht, integerDigits_append_blank hb, integerDigits, trimStart_append_of_blank ha]
  rfl

/-- Closers hold no literal. -/
theorem integerDigits_of_isCloser {x : Text} (hx : ∀ c ∈ x, IsCloser c) : integerDigits x = 0 := by
  cases x with
  | nil => rfl
  | cons c x =>
    have hc := hx c List.mem_cons_self
    rw [integerDigits, trimStart_eq_self (by rcases hc with rfl | rfl | rfl <;> simp <;> decide)]
    rcases hc with rfl | rfl | rfl <;> simp [takeSign] <;> decide

/-- **Closers behind a text keep its literal.** -/
theorem integerDigits_append_closers {x : Text} (hx : ∀ c ∈ x, IsCloser c) (t : Text) :
    integerDigits (t ++ x) = integerDigits t := by
  by_cases ht : Blank t
  · rw [integerDigits_of_blank ht, integerDigits, trimStart_append_of_blank ht]
    exact integerDigits_of_isCloser hx
  · exact integerDigits_append_of_ink ht fun c hc =>
      isDigit_of_isCloser (hx c (List.mem_of_mem_head? hc))

theorem integerDigits_of_bracket {t : Text} (ht : t.head? = some '[') : integerDigits t = 0 := by
  obtain ⟨rest, rfl⟩ := List.head?_eq_some_iff.mp ht
  rw [integerDigits, trimStart_eq_self (by simp; decide)]
  simp [takeSign]
  decide

end Widgetry
