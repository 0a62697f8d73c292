import Widgetry.Proofs.IntegerLiterals
import Widgetry.Proofs.Nearest

/-!
# The longest literal

The grammar of the numerals is a type: a sign, digits with at most one point among them and on one
side of it at least, and an exponent (`DecimalNumeral`); or a sign and digits (`IntegerNumeral`). A
text may begin with several of them, as `1.5e3` begins with `1`, `1.` and `1.5`. The longest one
cannot be carried on by what stands behind it (`DecimalNumeral.ends_of_longest`), for each way to
carry on makes a longer one, and a numeral that is not carried on is the one that is read
(`DecimalNumeral.read?_of_trimStart`). So the longest literal is read, rounded correctly or exact,
and nothing is read only if there is none (`readsLongest`).
-/

namespace Widgetry

open Text DecimalLiteral

/-! ## Longest literals -/

/-- Among the literals of a kind that the text begins with, this is a longest one. -/
structure Longest {α : Type} (text : α → Text) (t : Text) (l : α) : Prop where
  front : text l <+: t
  longest : ∀ l', text l' <+: t → (text l').length ≤ (text l).length

section

variable {α : Type} {text : α → Text} {t : Text} {l : α}

/-- **If there is a literal, there is a longest one.** -/
theorem exists_longest (h : text l <+: t) : ∃ l', Longest text t l' := by
  by_contra hnone
  have hgrow : ∀ k, ∃ l', text l' <+: t ∧ k ≤ (text l').length := by
    intro k
    induction k with
    | zero => exact ⟨l, h, Nat.zero_le _⟩
    | succ k ih =>
      obtain ⟨l', hfront, hk⟩ := ih
      by_contra hall
      refine hnone ⟨l', hfront, fun l'' hfront'' => ?_⟩
      by_contra hlonger
      exact hall ⟨l'', hfront'', by omega⟩
  obtain ⟨l', hfront, hlong⟩ := hgrow (t.length + 1)
  have hle := hfront.length_le
  omega

theorem exists_longest_iff : (∃ l, Longest text t l) ↔ ∃ l, text l <+: t := by
  constructor
  · rintro ⟨l, hl⟩
    exact ⟨l, hl.front⟩
  · rintro ⟨l, hl⟩
    exact exists_longest hl

/-- What stands behind a longest literal does not carry it on. -/
theorem Longest.not_carried {rest : Text} (h : Longest text (text l ++ rest) l) {l' : α} {x : Text}
    (hl' : text l' = text l ++ x) (hx : x ≠ []) : ¬ x <+: rest := by
  intro hcarried
  have hle := h.longest l' (by rw [hl']; exact (List.prefix_append_right_inj _).mpr hcarried)
  have hpos := List.length_pos_iff.mpr hx
  rw [hl', List.length_append] at hle
  omega

end

/-! ## Integer numerals -/

namespace IntegerNumeral

theorem exists_text_append_digit (n : IntegerNumeral) {c : Char} (hc : Text.isDigit c = true) :
    ∃ n' : IntegerNumeral, n'.text = n.text ++ [c] :=
  ⟨{ n with
      digits := n.digits ++ [c]
      nonempty := by simp
      isDigit := by simpa [or_imp, forall_and, hc] using n.isDigit },
    (List.append_assoc _ _ _).symm⟩

theorem ends_of_longest {n : IntegerNumeral} {rest : Text}
    (h : Longest text (n.text ++ rest) n) : ∀ c ∈ rest.head?, Text.isDigit c = false := by
  intro c hc
  obtain ⟨rest, rfl⟩ := List.head?_eq_some_iff.mp hc
  by_contra hdigit
  obtain ⟨n', hn'⟩ := n.exists_text_append_digit (by simpa using hdigit)
  exact h.not_carried hn' (by simp) (by simp)

/-- **The longest numeral is read.** -/
theorem readInteger_of_longest {t : Text} {n : IntegerNumeral} (h : Longest text (trimStart t) n) :
    readInteger t =
      if maxIntegerDigits < n.digits.length then .error ⟨n.digits.length⟩
      else .ok (some n.value) := by
  obtain ⟨rest, ht⟩ := h.front
  rw [← ht] at h
  exact n.readInteger_of_trimStart ht.symm (ends_of_longest h)

/-- A numeral is read from its digits. -/
theorem exists_front_of_readInteger {t : Text} (h : readInteger t ≠ .ok none) :
    ∃ n : IntegerNumeral, n.text <+: trimStart t := by
  obtain ⟨sign, hsign⟩ := Sign.exists_text_append (trimStart t)
  have hne : (takeSign (trimStart t)).2.takeWhile Text.isDigit ≠ [] := by
    intro hnil
    apply h
    simp [readInteger, takeDigits, hnil]
  refine ⟨⟨sign, _, hne, fun c hc => List.mem_takeWhile_imp hc⟩, ?_⟩
  rw [text]
  conv_rhs => rw [hsign]
  exact (List.prefix_append_right_inj _).mpr (List.takeWhile_prefix _)

end IntegerNumeral

/-! ## Decimal numerals -/

/-- A letter and the power of ten behind it. -/
structure ExponentPart where
  letter : Char
  letter_eq : letter = 'e' ∨ letter = 'E'
  power : IntegerNumeral

def ExponentPart.text (e : ExponentPart) : Text := e.letter :: e.power.text

/-- A sign, digits with at most one point among them, and an exponent. -/
structure DecimalNumeral where
  sign : Sign
  whole : Text
  /-- The digits behind the point, if there is a point. -/
  fraction : Option Text
  exponent : Option ExponentPart
  isDigit_whole : ∀ c ∈ whole, isDigit c = true
  isDigit_fraction : ∀ c ∈ fraction.getD [], isDigit c = true
  /-- There are digits in front of the point or behind it. -/
  nonempty : whole ≠ [] ∨ fraction.getD [] ≠ []

namespace DecimalNumeral

variable (l : DecimalNumeral)

def pointText : Text :=
  match l.fraction with
  | none => []
  | some digits => '.' :: digits

def exponentText : Text :=
  match l.exponent with
  | none => []
  | some e => e.text

def text : Text := l.sign.text ++ (l.whole ++ (l.pointText ++ l.exponentText))

def power : Int :=
  match l.exponent with
  | none => 0
  | some e => e.power.value

/-- The number that the numeral denotes, without the sign. -/
def size : ℚ :=
  (rowValue l.whole + rowValue (l.fraction.getD []) / 10 ^ (l.fraction.getD []).length) *
    10 ^ l.power

/-! ### Carrying on -/

/-- What stands behind a numeral is no part of it: no further digit, no exponent, no point. -/
structure Ends (rest : Text) : Prop where
  digit : ∀ c ∈ rest.head?, isDigit c = false
  exponent : l.exponent = none → ∀ e : ExponentPart, ¬ e.text <+: rest
  point : l.exponent = none → l.fraction = none → rest.head? ≠ some '.'

theorem exists_text_append_digit {c : Char} (hc : isDigit c = true) :
    ∃ l' : DecimalNumeral, l'.text = l.text ++ [c] := by
  obtain ⟨sign, whole, fraction, exponent, hwhole, hfraction, hne⟩ := l
  cases exponent with
  | some e =>
    obtain ⟨power, hpower⟩ := e.power.exists_text_append_digit hc
    refine ⟨⟨sign, whole, fraction, some { e with power }, hwhole, hfraction, hne⟩, ?_⟩
    simp [text, pointText, exponentText, ExponentPart.text, hpower]
  | none =>
    cases fraction with
    | some digits =>
      refine ⟨⟨sign, whole, some (digits ++ [c]), none, hwhole, ?_, Or.inr (by simp)⟩, ?_⟩
      · simpa [or_imp, forall_and, hc] using hfraction
      · simp [text, pointText, exponentText]
    | none =>
      refine ⟨⟨sign, whole ++ [c], none, none, ?_, hfraction, Or.inl (by simp)⟩, ?_⟩
      · simpa [or_imp, forall_and, hc] using hwhole
      · simp [text, pointText, exponentText]

theorem exists_text_append_exponent (h : l.exponent = none) (e : ExponentPart) :
    ∃ l' : DecimalNumeral, l'.text = l.text ++ e.text :=
  ⟨{ l with exponent := some e }, by simp [text, exponentText, pointText, h]⟩

theorem exists_text_append_point (h : l.exponent = none) (h' : l.fraction = none) :
    ∃ l' : DecimalNumeral, l'.text = l.text ++ ['.'] := by
  have hwhole : l.whole ≠ [] := l.nonempty.resolve_right (by simp [h'])
  exact ⟨⟨l.sign, l.whole, some [], none, l.isDigit_whole, by simp, Or.inl hwhole⟩,
    by simp [text, exponentText, pointText, h, h']⟩

variable {l}

/-- **A longest numeral is not carried on.** -/
theorem ends_of_longest {rest : Text} (h : Longest text (l.text ++ rest) l) : l.Ends rest := by
  constructor
  case digit =>
    intro c hc
    obtain ⟨rest, rfl⟩ := List.head?_eq_some_iff.mp hc
    by_contra hdigit
    obtain ⟨l', hl'⟩ := l.exists_text_append_digit (by simpa using hdigit)
    exact h.not_carried hl' (by simp) (by simp)
  case exponent =>
    intro hnone e
    obtain ⟨l', hl'⟩ := l.exists_text_append_exponent hnone e
    exact h.not_carried hl' (by simp [ExponentPart.text])
  case point =>
    intro hnone hnone' hpoint
    obtain ⟨rest, rfl⟩ := List.head?_eq_some_iff.mp hpoint
    obtain ⟨l', hl'⟩ := l.exists_text_append_point hnone hnone'
    exact h.not_carried hl' (by simp) (by simp)

/-! ### Reading -/

variable (l)

/-- What is read for a numeral. -/
def literal : DecimalLiteral where
  negative := l.sign.isMinus
  whole := l.whole.filterMap digitValue?
  fraction := (l.fraction.getD []).filterMap digitValue?
  exponent := l.power

section

variable {l} {rest : Text} (h : l.Ends rest)
include h

theorem head_exponentText : ∀ c ∈ (l.exponentText ++ rest).head?, isDigit c = false := by
  unfold exponentText
  cases l.exponent with
  | none => exact h.digit
  | some e =>
    intro c hc
    obtain rfl : e.letter = c := by simpa [ExponentPart.text] using hc
    rcases e.letter_eq with hletter | hletter
    · rw [hletter]
      decide
    · rw [hletter]
      decide

theorem head_pointText :
    ∀ c ∈ (l.pointText ++ (l.exponentText ++ rest)).head?, isDigit c = false := by
  unfold pointText
  cases l.fraction with
  | none => exact head_exponentText h
  | some digits =>
    intro c hc
    obtain rfl : '.' = c := by simpa using hc
    decide

omit h in
theorem takeSign_text_append (rest : Text) :
    takeSign (l.text ++ rest) =
      (l.sign.isMinus, l.whole ++ (l.pointText ++ (l.exponentText ++ rest))) := by
  rw [text, List.append_assoc, List.append_assoc, List.append_assoc]
  apply l.sign.takeSign_text_append
  intro c hc
  cases hwhole : l.whole with
  | cons d digits =>
    obtain rfl : d = c := by simpa [hwhole] using hc
    exact ne_sign_of_isDigit (l.isDigit_whole d (hwhole ▸ List.mem_cons_self))
  | nil =>
    -- without digits in front there is a point
    have hfraction := l.nonempty.resolve_left (not_not.mpr hwhole)
    obtain ⟨digits, hdigits⟩ : ∃ digits, l.fraction = some digits := by
      cases hf : l.fraction with
      | none => exact absurd (by rw [hf]; rfl) hfraction
      | some digits => exact ⟨digits, rfl⟩
    obtain rfl : '.' = c := by simpa [hwhole, pointText, hdigits] using hc
    decide

theorem takeFraction_pointText_append :
    takeFraction (l.pointText ++ (l.exponentText ++ rest)) =
      ((l.fraction.getD []).filterMap digitValue?, l.exponentText ++ rest) := by
  have hdigits := l.isDigit_fraction
  have hhead := head_exponentText h
  unfold pointText
  cases hfraction : l.fraction with
  | some digits =>
    rw [hfraction] at hdigits
    exact takeDigits_append hdigits hhead
  | none =>
    have hpoint : (l.exponentText ++ rest).head? ≠ some '.' := by
      unfold exponentText
      cases hexponent : l.exponent with
      | none => exact h.point hexponent hfraction
      | some e =>
        intro hhead
        have hletter : e.letter = '.' := by simpa [ExponentPart.text] using hhead
        rcases e.letter_eq with hletter' | hletter'
        · exact absurd (hletter'.symm.trans hletter) (by decide)
        · exact absurd (hletter'.symm.trans hletter) (by decide)
    rw [List.nil_append]
    unfold takeFraction
    split
    · rename_i hcons
      exact absurd (by rw [hcons]; rfl) hpoint
    · rfl

theorem exponentAt_exponentText_append : exponentAt (l.exponentText ++ rest) = l.power := by
  unfold exponentText power
  cases hexponent : l.exponent with
  | none =>
    apply exponentAt_eq_zero
    intro letter sign c rest' hletter hdigit hrest
    have hrow : ∀ d ∈ [c], isDigit d = true := by simpa using hdigit
    apply h.exponent hexponent ⟨letter, hletter, ⟨sign, [c], by simp, hrow⟩⟩
    exact ⟨rest', by simp [ExponentPart.text, IntegerNumeral.text, ← hrest]⟩
  | some e =>
    have hletter : (e.letter == 'e' || e.letter == 'E') = true := by
      simpa using e.letter_eq
    simp only [ExponentPart.text, List.cons_append, exponentAt, hletter, if_true,
      e.power.takeSign_text_append, takeDigits_append e.power.isDigit h.digit,
      digitsValue_eq_ofDigits]
    rfl

/-- **A numeral that is not carried on is what is read.** -/
theorem read?_of_trimStart {t : Text} (ht : trimStart t = l.text ++ rest) :
    DecimalLiteral.read? t = some l.literal := by
  have hne : ¬ (l.whole.filterMap digitValue? = [] ∧
      (l.fraction.getD []).filterMap digitValue? = []) := by
    rw [← List.length_eq_zero_iff, ← List.length_eq_zero_iff,
      length_filterMap_digitValue? l.isDigit_whole,
      length_filterMap_digitValue? l.isDigit_fraction, List.length_eq_zero_iff,
      List.length_eq_zero_iff]
    exact fun hnil => l.nonempty.elim (absurd hnil.1) (absurd hnil.2)
  simp only [DecimalLiteral.read?, ht, takeSign_text_append,
    takeDigits_append l.isDigit_whole (head_pointText h), takeFraction_pointText_append h,
    exponentAt_exponentText_append h]
  exact if_neg hne

end

/-- **The longest numeral is read.** -/
theorem read?_of_longest {t : Text} {l : DecimalNumeral} (h : Longest text (trimStart t) l) :
    DecimalLiteral.read? t = some l.literal := by
  obtain ⟨rest, ht⟩ := h.front
  rw [← ht] at h
  exact read?_of_trimStart (ends_of_longest h) ht.symm

/-- A literal is read from digits, in front of a point or behind it. -/
theorem exists_front_of_read? {t : Text} (h : DecimalLiteral.read? t ≠ none) :
    ∃ l : DecimalNumeral, l.text <+: trimStart t := by
  obtain ⟨sign, hsign⟩ := Sign.exists_text_append (trimStart t)
  rw [hsign]
  have hread : (takeDigits (takeSign (trimStart t)).2).1 = [] →
      (takeFraction (takeDigits (takeSign (trimStart t)).2).2).1 ≠ [] := by
    intro hwhole hfraction
    exact h (if_pos ⟨hwhole, hfraction⟩)
  generalize (takeSign (trimStart t)).2 = u at *
  by_cases hwhole : u.takeWhile isDigit = []
  · have hrest : u.dropWhile isDigit = u := by
      have hsplit := List.takeWhile_append_dropWhile (p := isDigit) (l := u)
      rwa [hwhole, List.nil_append] at hsplit
    have hfraction : (takeFraction u).1 ≠ [] := by
      simpa [takeDigits, hwhole, hrest] using hread
    unfold takeFraction at hfraction
    split at hfraction
    · rename_i rest
      have hdigits : ∀ c ∈ rest.takeWhile isDigit, isDigit c = true :=
        fun c hc => List.mem_takeWhile_imp hc
      have hne : rest.takeWhile isDigit ≠ [] := by
        intro hnil
        exact hfraction (by simp [takeDigits, hnil])
      refine ⟨⟨sign, [], some (rest.takeWhile isDigit), none, by simp, hdigits, Or.inr hne⟩, ?_⟩
      simp [text, pointText, exponentText, List.takeWhile_prefix]
    · exact absurd rfl hfraction
  · have hdigits : ∀ c ∈ u.takeWhile isDigit, isDigit c = true :=
      fun c hc => List.mem_takeWhile_imp hc
    refine ⟨⟨sign, u.takeWhile isDigit, none, none, hdigits, by simp, Or.inl hwhole⟩, ?_⟩
    simp [text, pointText, exponentText, List.takeWhile_prefix]

/-- **The value of a numeral is rounded correctly.** -/
theorem isRounded_literal : Binary64.IsRounded l.sign.isMinus l.size l.literal.value := by
  have hsize : l.size =
      (digitsValue (l.literal.whole ++ l.literal.fraction) : ℕ) *
        10 ^ (l.power - l.literal.fraction.length) := by
    have hwhole : digitsValue l.literal.whole = rowValue l.whole := digitsValue_eq_ofDigits _
    have hfraction : digitsValue l.literal.fraction = rowValue (l.fraction.getD []) :=
      digitsValue_eq_ofDigits _
    have hlength : l.literal.fraction.length = (l.fraction.getD []).length :=
      length_filterMap_digitValue? l.isDigit_fraction
    rw [digitsValue_append, hwhole, hfraction, hlength, zpow_sub₀ (by norm_num), zpow_natCast, size]
    push_cast
    field_simp
  rw [hsize]
  exact Binary64.isRounded_ofDecimal _ _ _

end DecimalNumeral

/-! ## Reading the longest literal -/

section

variable {t : Text}

theorem binary64_read?_of_longest {l : DecimalNumeral}
    (h : Longest DecimalNumeral.text (trimStart t) l) :
    Binary64.read? t = some l.literal.value := by
  rw [Binary64.read?, DecimalNumeral.read?_of_longest h]
  rfl

theorem exists_longest_of_binary64_read? (h : Binary64.read? t ≠ none) :
    ∃ l, Longest DecimalNumeral.text (trimStart t) l := by
  have hread : DecimalLiteral.read? t ≠ none := by simpa [Binary64.read?] using h
  exact exists_longest_iff.mpr (DecimalNumeral.exists_front_of_read? hread)

/-- **The number that is read is the longest literal, rounded correctly.** -/
theorem binary64_read?_eq_some_iff {x : Binary64} :
    Binary64.read? t = some x ↔
      ∃ l, Longest DecimalNumeral.text (trimStart t) l ∧
        Binary64.IsRounded l.sign.isMinus l.size x := by
  constructor
  · intro hx
    obtain ⟨l, hl⟩ := exists_longest_of_binary64_read? (t := t) (by simp [hx])
    rw [binary64_read?_of_longest hl, Option.some.injEq] at hx
    exact ⟨l, hl, hx ▸ l.isRounded_literal⟩
  · rintro ⟨l, hl, hx⟩
    rw [binary64_read?_of_longest hl, l.isRounded_literal.unique hx]

theorem binary64_read?_eq_none_iff :
    Binary64.read? t = none ↔ ∀ l : DecimalNumeral, ¬ l.text <+: trimStart t := by
  rw [← not_exists, ← exists_longest_iff]
  constructor
  · rintro hnone ⟨l, hl⟩
    simp [binary64_read?_of_longest hl] at hnone
  · intro hall
    by_contra hread
    exact hall (exists_longest_of_binary64_read? hread)

theorem exists_longest_of_readInteger (h : readInteger t ≠ .ok none) :
    ∃ l, Longest IntegerNumeral.text (trimStart t) l :=
  exists_longest_iff.mpr (IntegerNumeral.exists_front_of_readInteger h)

/-- **The integer that is read is the longest literal**, if that is not too long. -/
theorem readInteger_eq_some_iff {n : Int} :
    readInteger t = .ok (some n) ↔
      ∃ l, Longest IntegerNumeral.text (trimStart t) l ∧ l.digits.length ≤ maxIntegerDigits ∧
        n = l.value := by
  constructor
  · intro hn
    obtain ⟨l, hl⟩ := exists_longest_of_readInteger (t := t) (by simp [hn])
    rw [IntegerNumeral.readInteger_of_longest hl] at hn
    split at hn
    · exact absurd hn (by simp)
    · rename_i hshort
      exact ⟨l, hl, not_lt.mp hshort, by simpa [eq_comm] using hn⟩
  · rintro ⟨l, hl, hshort, rfl⟩
    rw [IntegerNumeral.readInteger_of_longest hl, if_neg (not_lt.mpr hshort)]

theorem readInteger_eq_none_iff :
    readInteger t = .ok none ↔ ∀ l : IntegerNumeral, ¬ l.text <+: trimStart t := by
  rw [← not_exists, ← exists_longest_iff]
  constructor
  · rintro hnone ⟨l, hl⟩
    rw [IntegerNumeral.readInteger_of_longest hl] at hnone
    split at hnone
    · exact absurd hnone (by simp)
    · exact absurd hnone (by simp)
  · intro hall
    by_contra hread
    exact hall (exists_longest_of_readInteger hread)

/-- **The integer that is refused is the longest literal.** -/
theorem readInteger_eq_oversized_iff {e : OversizedInteger} :
    readInteger t = .error e ↔
      ∃ l, Longest IntegerNumeral.text (trimStart t) l ∧ maxIntegerDigits < l.digits.length ∧
        e = ⟨l.digits.length⟩ := by
  constructor
  · intro he
    obtain ⟨l, hl⟩ := exists_longest_of_readInteger (t := t) (by simp [he])
    rw [IntegerNumeral.readInteger_of_longest hl] at he
    split at he
    · rename_i hlong
      exact ⟨l, hl, hlong, by simpa [eq_comm] using he⟩
    · exact absurd he (by simp)
  · rintro ⟨l, hl, hlong, rfl⟩
    rw [IntegerNumeral.readInteger_of_longest hl, if_pos hlong]

end

/-- What is read from a text is its longest literal, after white space. -/
structure ReadsLongest (t : Text) : Prop where
  number : ∀ x, Binary64.read? t = some x ↔
    ∃ l, Longest DecimalNumeral.text (trimStart t) l ∧
      Binary64.IsRounded l.sign.isMinus l.size x
  no_number : Binary64.read? t = none ↔ ∀ l : DecimalNumeral, ¬ l.text <+: trimStart t
  integer : ∀ n, readInteger t = .ok (some n) ↔
    ∃ l, Longest IntegerNumeral.text (trimStart t) l ∧ l.digits.length ≤ maxIntegerDigits ∧
      n = l.value
  no_integer : readInteger t = .ok none ↔ ∀ l : IntegerNumeral, ¬ l.text <+: trimStart t
  oversized : ∀ e, readInteger t = .error e ↔
    ∃ l, Longest IntegerNumeral.text (trimStart t) l ∧ maxIntegerDigits < l.digits.length ∧
      e = ⟨l.digits.length⟩

/-- **A text is read as its longest literal**: rounded correctly as a binary64 number, and exactly or
not at all as an integer. Without a literal nothing is read. -/
theorem readsLongest (t : Text) : ReadsLongest t where
  number _ := binary64_read?_eq_some_iff
  no_number := binary64_read?_eq_none_iff
  integer _ := readInteger_eq_some_iff
  no_integer := readInteger_eq_none_iff
  oversized _ := readInteger_eq_oversized_iff

/-- A point with digits on one side is part of the literal, a letter without digits is not. -/
example : DecimalLiteral.read? " -.5e+px".toList = some ⟨true, [], [5], 0⟩ := by decide

end Widgetry
