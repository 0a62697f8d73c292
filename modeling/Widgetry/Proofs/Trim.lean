import Mathlib.Data.List.DropRight
import Mathlib.Data.List.TakeWhile
import Widgetry.Keyword

/-!
# Trimming and first words

A text is blanks, its trimmed part, and blanks again (`exists_frame`), and no other cut of it has a
trimmed part in the middle (`trim_frame`). All that the readers need to know of `trim` follows from
the two.

The first word of a text is a prefix of it, and it grows with the text until a blank ends it
(`leadingWord_append_of_blank`). Trimming changes no first word but by the blanks in front, so the
first word of a trimmed text can be read off the text before its end is trimmed
(`leadingWord_trim`), where appending is plain concatenation.
-/

namespace Widgetry.Text

/-! ## Trimmed texts -/

/-- White space only. -/
def Blank (t : Text) : Prop := ∀ c ∈ t, isBlank c = true

instance (t : Text) : Decidable (Blank t) := List.decidableBAll (isBlank · = true) t

theorem blank_append {a b : Text} (ha : Blank a) (hb : Blank b) : Blank (a ++ b) :=
  fun c hc => (List.mem_append.mp hc).elim (ha c) (hb c)

/-- White space neither in front nor at the end. -/
structure Trimmed (t : Text) : Prop where
  front : ∀ c ∈ t.head?, isBlank c = false
  back : ∀ c ∈ t.getLast?, isBlank c = false

theorem trimmed_nil : Trimmed [] := ⟨by simp, by simp⟩

theorem trimStart_eq_self {t : Text} (h : ∀ c ∈ t.head?, isBlank c = false) :
    trimStart t = t := by
  cases t with
  | nil => rfl
  | cons c t => simp [trimStart, h c rfl]

theorem trimStart_append_of_blank {a : Text} (ha : Blank a) (t : Text) :
    trimStart (a ++ t) = trimStart t :=
  List.dropWhile_append_of_pos ha

theorem trimStart_eq_nil_iff {t : Text} : trimStart t = [] ↔ Blank t :=
  List.dropWhile_eq_nil_iff

/-- What begins with ink keeps its beginning when more text comes. -/
theorem trimStart_append {a : Text} (ha : ¬ Blank a) (b : Text) :
    trimStart (a ++ b) = trimStart a ++ b := by
  have hne : trimStart a ≠ [] := fun h => ha (trimStart_eq_nil_iff.mp h)
  unfold trimStart at hne
  rw [trimStart, trimStart, List.dropWhile_append, if_neg (by simpa using hne)]

theorem head_trimStart {t : Text} : ∀ c ∈ (trimStart t).head?, isBlank c = false := by
  intro c hc
  have h := List.head?_dropWhile_not isBlank t
  rw [trimStart, Option.mem_def] at hc
  rw [hc] at h
  exact h

theorem trimEnd_eq_rdropWhile (t : Text) : trimEnd t = t.rdropWhile isBlank := rfl

theorem trimEnd_append_of_blank {b : Text} (hb : Blank b) (t : Text) :
    trimEnd (t ++ b) = trimEnd t := by
  rw [trimEnd, List.reverse_append, List.dropWhile_append_of_pos, trimEnd]
  exact fun c hc => hb c (List.mem_reverse.mp hc)

theorem trimEnd_eq_self {t : Text} (h : ∀ c ∈ t.getLast?, isBlank c = false) :
    trimEnd t = t := by
  rw [trimEnd_eq_rdropWhile, List.rdropWhile_eq_self_iff]
  intro hne
  simpa using h _ (by simp [List.getLast?_eq_getLast_of_ne_nil hne])

theorem trimEnd_of_blank {t : Text} (h : Blank t) : trimEnd t = [] := trimEnd_append_of_blank h []

/-- What stands before ink stays when the end is trimmed. -/
theorem trimEnd_append_of_ink {b : Text} (hb : ¬ Blank b) (a : Text) :
    trimEnd (a ++ b) = a ++ trimEnd b := by
  have hne : b.reverse.dropWhile isBlank ≠ [] := by
    intro hnil
    exact hb fun c hc => List.dropWhile_eq_nil_iff.mp hnil c (List.mem_reverse.mpr hc)
  rw [trimEnd, List.reverse_append, List.dropWhile_append, if_neg (by simpa using hne),
    List.reverse_append, List.reverse_reverse, trimEnd]

/-- What ends with ink stays when the end is trimmed. -/
theorem trimEnd_append {a : Text} (ha : ∀ c ∈ a.getLast?, isBlank c = false) (b : Text) :
    trimEnd (a ++ b) = a ++ trimEnd b := by
  by_cases hb : Blank b
  · rw [trimEnd_append_of_blank hb, trimEnd_eq_self ha, trimEnd_of_blank hb, List.append_nil]
  · exact trimEnd_append_of_ink hb a

/-- Trimming at the end cuts blanks off. -/
theorem exists_trimEnd_append (t : Text) : ∃ b, Blank b ∧ t = trimEnd t ++ b := by
  refine ⟨(t.reverse.takeWhile isBlank).reverse, ?_, ?_⟩
  · intro c hc
    exact List.mem_takeWhile_imp (List.mem_reverse.mp hc)
  · rw [trimEnd, ← List.reverse_append, List.takeWhile_append_dropWhile, List.reverse_reverse]

theorem mem_of_mem_trimEnd {t : Text} {c : Char} (h : c ∈ trimEnd t) : c ∈ t := by
  obtain ⟨b, -, ht⟩ := exists_trimEnd_append t
  rw [ht]
  exact List.mem_append_left b h

theorem getLast_trimEnd {t : Text} : ∀ c ∈ (trimEnd t).getLast?, isBlank c = false := by
  intro c hc
  rw [trimEnd, List.getLast?_reverse] at hc
  have h := List.head?_dropWhile_not isBlank t.reverse
  rw [Option.mem_def] at hc
  rw [hc] at h
  exact h

/-- **A text is its trimmed part in a frame of blanks.** -/
theorem exists_frame (t : Text) : ∃ a b, Blank a ∧ Blank b ∧ t = a ++ trim t ++ b := by
  obtain ⟨b, hb, ht⟩ := exists_trimEnd_append (trimStart t)
  refine ⟨t.takeWhile isBlank, b, fun c hc => List.mem_takeWhile_imp hc, hb, ?_⟩
  rw [List.append_assoc, trim, ← ht, trimStart, List.takeWhile_append_dropWhile]

theorem trimmed_trim (t : Text) : Trimmed (trim t) := by
  refine ⟨?_, getLast_trimEnd⟩
  intro c hc
  obtain ⟨b, -, ht⟩ := exists_trimEnd_append (trimStart t)
  apply head_trimStart (t := t) c
  rw [ht, List.head?_append]
  rw [trim, Option.mem_def] at hc
  rw [hc]
  rfl

/-- **No other part of a text is its trimmed part.** -/
theorem trim_frame {a u b : Text} (ha : Blank a) (hb : Blank b) (hu : Trimmed u) :
    trim (a ++ u ++ b) = u := by
  rw [trim, List.append_assoc, trimStart_append_of_blank ha]
  cases u with
  | nil => rw [List.nil_append, trimStart_eq_nil_iff.mpr hb]; rfl
  | cons c u =>
    rw [trimStart_eq_self (by simpa using hu.front), trimEnd_append_of_blank hb,
      trimEnd_eq_self hu.back]

/-- Blanks at the end are trimmed. -/
theorem trim_append_of_blank {b : Text} (hb : Blank b) (t : Text) : trim (t ++ b) = trim t := by
  obtain ⟨a, b', ha, hb', ht⟩ := exists_frame t
  rw [ht, List.append_assoc, trim_frame ha (blank_append hb' hb) (trimmed_trim t),
    trim_frame ha hb' (trimmed_trim t)]

theorem trim_trimEnd (t : Text) : trim (trimEnd t) = trim t := by
  obtain ⟨b, hb, ht⟩ := exists_trimEnd_append t
  conv_rhs => rw [ht, trim_append_of_blank hb]

theorem trim_eq_self {t : Text} (h : Trimmed t) : trim t = t := by
  simpa using trim_frame (a := []) (b := []) (by simp [Blank]) (by simp [Blank]) h

@[simp] theorem trim_trim (t : Text) : trim (trim t) = trim t := trim_eq_self (trimmed_trim t)

theorem trimmed_iff {t : Text} : Trimmed t ↔ trim t = t := by
  constructor
  · exact trim_eq_self
  · intro h
    rw [← h]
    exact trimmed_trim t

instance (t : Text) : Decidable (Trimmed t) := decidable_of_iff _ trimmed_iff.symm

/-- Ink at both ends keeps what is between trimmed. -/
theorem trimmed_of_ends {a b : Char} (ha : isBlank a = false) (hb : isBlank b = false) (t : Text) :
    Trimmed (a :: t ++ [b]) := by
  constructor
  · intro c hc
    obtain rfl : a = c := by simpa using hc
    exact ha
  · intro c hc
    rw [List.getLast?_append_of_ne_nil _ (by simp)] at hc
    obtain rfl : b = c := by simpa using hc
    exact hb

/-- Ink keeps what stands on both sides of it trimmed. -/
theorem trimmed_append_ink {a b : Text} (ha : Trimmed a) {c : Char} (hc : isBlank c = false)
    (hb : Trimmed b) : Trimmed (a ++ c :: b) := by
  constructor
  · cases a with
    | nil => simpa using hc
    | cons d a => simpa using ha.front
  · rw [List.getLast?_append_of_ne_nil _ (by simp)]
    cases b with
    | nil => simpa using hc
    | cons d b =>
      rw [List.getLast?_cons_cons]
      exact hb.back

theorem trim_eq_nil_iff {t : Text} : trim t = [] ↔ Blank t := by
  constructor
  · intro h
    obtain ⟨a, b, ha, hb, ht⟩ := exists_frame t
    rw [h, List.append_nil] at ht
    intro c hc
    rw [ht, List.mem_append] at hc
    exact hc.elim (ha c) (hb c)
  · intro h
    simpa using trim_frame (b := []) h (by simp [Blank]) trimmed_nil

/-- A text without blanks is trimmed. -/
theorem trim_of_ink {t : Text} (h : ∀ c ∈ t, isBlank c = false) : trim t = t :=
  trim_eq_self ⟨fun c hc => h c (List.mem_of_mem_head? hc),
    fun c hc => h c (List.mem_of_mem_getLast? hc)⟩

theorem mem_of_mem_trim {t : Text} {c : Char} (h : c ∈ trim t) : c ∈ t := by
  obtain ⟨a, b, -, -, ht⟩ := exists_frame t
  rw [ht]
  simp [h]

theorem mem_trim_iff {c : Char} (hc : isBlank c = false) {t : Text} : c ∈ trim t ↔ c ∈ t := by
  refine ⟨mem_of_mem_trim, fun h => ?_⟩
  obtain ⟨a, b, ha, hb, ht⟩ := exists_frame t
  rw [ht, List.mem_append, List.mem_append] at h
  rcases h with (h | h) | h
  · exact absurd (ha c h) (by simp [hc])
  · exact h
  · exact absurd (hb c h) (by simp [hc])

end Widgetry.Text

namespace Widgetry.Keyword

open Text

/-! ## First words -/

theorem not_blank_of_mem_leadingWord {t : Text} {c : Char} (h : c ∈ leadingWord t) :
    isBlank c = false := by
  simpa using List.mem_takeWhile_imp h

/-- A text without blanks is one word. -/
theorem leadingWord_eq_self {t : Text} (h : ∀ c ∈ t, isBlank c = false) : leadingWord t = t :=
  List.takeWhile_eq_self_iff.mpr (by simpa using h)

/-- A text is its first word, or its first word with a blank behind it. -/
theorem leadingWord_cases (t : Text) :
    leadingWord t = t ∨ ∃ c rest, isBlank c = true ∧ t = leadingWord t ++ c :: rest := by
  have ht : leadingWord t ++ t.dropWhile (fun c => !isBlank c) = t :=
    List.takeWhile_append_dropWhile
  cases hd : t.dropWhile (fun c => !isBlank c) with
  | nil => exact Or.inl (by rw [hd, List.append_nil] at ht; exact ht)
  | cons c rest =>
    have hc := List.head?_dropWhile_not (fun c => !isBlank c) t
    rw [hd] at ht hc
    exact Or.inr ⟨c, rest, by simpa using hc, ht.symm⟩

/-- Nothing that comes after a blank belongs to the first word. -/
theorem leadingWord_append_of_blank {a : Text} {c : Char} (hc : c ∈ a) (hb : isBlank c = true)
    (b : Text) : leadingWord (a ++ b) = leadingWord a := by
  rw [leadingWord, leadingWord, List.takeWhile_append, if_neg]
  intro h
  have hself := (List.takeWhile_prefix (fun c => !isBlank c)).eq_of_length h
  have hall := List.takeWhile_eq_self_iff.mp hself c hc
  simp [hb] at hall

/-- The first word grows with the text. -/
theorem leadingWord_prefix_append (a b : Text) : leadingWord a <+: leadingWord (a ++ b) := by
  rw [leadingWord, leadingWord, List.takeWhile_append]
  split
  · exact (List.takeWhile_prefix _).trans (List.prefix_append _ _)
  · exact List.prefix_rfl

theorem leadingWord_append_of_blank_right {b : Text} (hb : Blank b) (a : Text) :
    leadingWord (a ++ b) = leadingWord a := by
  cases b with
  | nil => rw [List.append_nil]
  | cons c b =>
    have hc : isBlank c = true := hb c List.mem_cons_self
    rw [leadingWord, leadingWord, List.takeWhile_append]
    split
    · rename_i h
      have hself := (List.takeWhile_prefix (fun c => !isBlank c)).eq_of_length h
      rw [hself, List.takeWhile_cons_of_neg (by simp [hc]), List.append_nil]
    · rfl

/-- **The end of a text does not matter for its first word.** -/
theorem leadingWord_trim (t : Text) : leadingWord (trim t) = leadingWord (trimStart t) := by
  obtain ⟨b, hb, ht⟩ := exists_trimEnd_append (trimStart t)
  rw [trim, ← leadingWord_append_of_blank_right hb (trimEnd (trimStart t)), ← ht]

theorem leadingWord_trim_of_front {t : Text} (h : ∀ c ∈ t.head?, isBlank c = false) :
    leadingWord (trim t) = leadingWord t := by
  rw [leadingWord_trim, trimStart_eq_self h]

/-- Ink in front is the beginning of a word. -/
theorem leadingWord_ne_nil {t : Text} (hne : t ≠ []) (h : ∀ c ∈ t.head?, isBlank c = false) :
    leadingWord t ≠ [] := by
  cases t with
  | nil => exact absurd rfl hne
  | cons c t => simp [leadingWord, h c rfl]

theorem front_of_leadingWord_ne_nil {t : Text} (h : leadingWord t ≠ []) :
    ∀ c ∈ t.head?, isBlank c = false := by
  cases t with
  | nil => simp
  | cons c t =>
    intro d hd
    obtain rfl : c = d := by simpa using hd
    by_contra hb
    exact h (by simp [leadingWord, hb])

end Widgetry.Keyword
