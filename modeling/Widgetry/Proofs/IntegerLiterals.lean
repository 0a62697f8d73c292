import Mathlib.Data.Nat.Digits.Defs
import Widgetry.Proofs.Literal
import Widgetry.Proofs.Rounding

/-!
# Integer literals

A literal of a sign and digits denotes an integer, whatever the script of the digits and however
many there are. Read as a number, it passes through the binary64 format: the integer is kept up to
2⁵³, rounded to 53 binary digits above that, and lost to an infinity at the end
(`read_integerLiteral`).
Read as an integer it is exact, but refused if it is too long, so that the two readings agree on
short literals of small integers.
-/

namespace Widgetry

open Text DecimalLiteral

namespace Text

/-! ## Digits -/

theorem digitsValue_append_singleton (digits : List Nat) (d : Nat) :
    digitsValue (digits ++ [d]) = 10 * digitsValue digits + d := by
  simp [digitsValue]

/-- A row of digits denotes the number that has these digits. -/
theorem digitsValue_eq_ofDigits (digits : List Nat) :
    digitsValue digits = Nat.ofDigits 10 digits.reverse := by
  induction digits using List.reverseRecOn with
  | nil => rfl
  | append_singleton digits d ih =>
    rw [digitsValue_append_singleton, List.reverse_append, List.reverse_singleton,
      List.singleton_append, Nat.ofDigits_cons, ih, Nat.add_comm]

theorem digitsValue_append (a b : List Nat) :
    digitsValue (a ++ b) = digitsValue a * 10 ^ b.length + digitsValue b := by
  simp only [digitsValue_eq_ofDigits, List.reverse_append, Nat.ofDigits_append, List.length_reverse]
  ring

/-- The number that a row of digits denotes, the most significant digit first. -/
def rowValue (row : Text) : Nat := Nat.ofDigits 10 (row.filterMap digitValue?).reverse

theorem takeDigits_append {digits rest : Text} (hdigits : ∀ c ∈ digits, isDigit c = true)
    (hrest : ∀ c ∈ rest.head?, isDigit c = false) :
    takeDigits (digits ++ rest) = (digits.filterMap digitValue?, rest) := by
  have htake : digits.takeWhile isDigit = digits := List.takeWhile_eq_self_iff.mpr hdigits
  have hdrop : rest.dropWhile isDigit = rest := by
    cases rest with
    | nil => rfl
    | cons c rest => exact List.dropWhile_cons_of_neg (by simp [hrest c rfl])
  rw [takeDigits, takeWhile_append_of_head hrest, htake, List.dropWhile_append_of_pos hdigits,
    hdrop]

end Text

/-! ## Signs -/

/-- No sign is a digit. -/
theorem ne_sign_of_isDigit {c : Char} (h : isDigit c = true) : c ≠ '-' ∧ c ≠ '+' := by
  have hsigns : isDigit '-' = false ∧ isDigit '+' = false := by decide
  constructor
  · rintro rfl
    exact Bool.false_ne_true (hsigns.1.symm.trans h)
  · rintro rfl
    exact Bool.false_ne_true (hsigns.2.symm.trans h)

/-- What may stand in front of the digits of a literal. -/
inductive Sign where
  | none
  | plus
  | minus
deriving Repr, DecidableEq

namespace Sign

def text : Sign → Text
  | none => []
  | plus => ['+']
  | minus => ['-']

def isMinus : Sign → Bool
  | minus => true
  | none | plus => false

/-- A size with the sign. -/
def apply (sign : Sign) (size : Nat) : Int := if sign.isMinus then -size else size

theorem abs_apply (sign : Sign) (size : Nat) : |sign.apply size| = size := by
  cases sign with
  | none => exact Nat.abs_cast size
  | plus => exact Nat.abs_cast size
  | minus => exact (abs_neg _).trans (Nat.abs_cast size)

theorem abs_apply_sub_apply (sign : Sign) (m n : Nat) :
    |sign.apply m - sign.apply n| = |(m : Int) - n| := by
  cases sign with
  | none => rfl
  | plus => rfl
  | minus =>
    show |-(m : Int) - -(n : Int)| = _
    rw [← neg_add', abs_neg, ← sub_eq_add_neg]

theorem takeSign_text_append (sign : Sign) {t : Text}
    (ht : ∀ c ∈ t.head?, c ≠ '-' ∧ c ≠ '+') : takeSign (sign.text ++ t) = (sign.isMinus, t) := by
  cases sign with
  | none =>
    cases t with
    | nil => rfl
    | cons c t =>
      obtain ⟨hminus, hplus⟩ := ht c rfl
      simp [text, takeSign, isMinus, hminus, hplus]
  | plus => rfl
  | minus => rfl

/-- A text begins with the sign that is taken from it. -/
theorem exists_text_append (t : Text) : ∃ sign : Sign, t = sign.text ++ (takeSign t).2 := by
  unfold takeSign
  split
  · exact ⟨minus, rfl⟩
  · exact ⟨plus, rfl⟩
  · exact ⟨none, rfl⟩

end Sign

/-- A letter without digits is no exponent. -/
theorem exponentAt_eq_zero {t : Text}
    (h : ∀ letter (sign : Sign) c rest, letter = 'e' ∨ letter = 'E' → isDigit c = true →
      t ≠ letter :: (sign.text ++ c :: rest)) : exponentAt t = 0 := by
  cases t with
  | nil => rfl
  | cons letter t =>
    simp only [exponentAt]
    split
    · rename_i hletter
      have hnone : (takeDigits (takeSign t).2).1 = [] := by
        obtain ⟨sign, hsign⟩ := Sign.exists_text_append t
        cases hdigits : (takeSign t).2 with
        | nil => rfl
        | cons c rest =>
          have hdigit : ¬ isDigit c = true := by
            intro hdigit
            exact h letter sign c rest (by simpa using hletter) hdigit (by rw [← hdigits, ← hsign])
          rw [takeDigits, List.takeWhile_cons_of_neg hdigit, List.filterMap_nil]
      simp [hnone, digitsValue]
    · rfl

/-! ## Numerals of a sign and digits -/

/-- A sign and digits. -/
structure IntegerNumeral where
  sign : Sign
  digits : Text
  nonempty : digits ≠ []
  isDigit : ∀ c ∈ digits, isDigit c = true

namespace IntegerNumeral

variable (n : IntegerNumeral)

def text : Text := n.sign.text ++ n.digits

/-- The number that the digits denote, without the sign. -/
def size : Nat := rowValue n.digits

/-- The integer that the numeral denotes. -/
def value : Int := n.sign.apply n.size

theorem head_digits (rest : Text) : ∀ c ∈ (n.digits ++ rest).head?, Text.isDigit c = true := by
  obtain ⟨c, digits, hcons⟩ := List.exists_cons_of_ne_nil n.nonempty
  intro d hd
  obtain rfl : c = d := by simpa [hcons] using hd
  exact n.isDigit c (hcons ▸ List.mem_cons_self)

/-- A numeral does not begin with white space. -/
theorem head_text_append (rest : Text) : ∀ c ∈ (n.text ++ rest).head?, isBlank c = false := by
  intro c hc
  rw [text, List.append_assoc] at hc
  cases hsign : n.sign with
  | none =>
    rw [hsign] at hc
    by_contra hblank
    have hdigit := n.head_digits rest c hc
    rw [isDigit_of_isBlank (by simpa using hblank)] at hdigit
    exact Bool.false_ne_true hdigit
  | plus =>
    obtain rfl : '+' = c := by simpa [hsign, Sign.text] using hc
    decide
  | minus =>
    obtain rfl : '-' = c := by simpa [hsign, Sign.text] using hc
    decide

theorem takeSign_text_append (rest : Text) :
    takeSign (n.text ++ rest) = (n.sign.isMinus, n.digits ++ rest) := by
  rw [text, List.append_assoc]
  apply n.sign.takeSign_text_append
  intro c hc
  exact ne_sign_of_isDigit (n.head_digits rest c hc)

theorem values_ne_nil : n.digits.filterMap digitValue? ≠ [] := by
  rw [← List.length_pos_iff, length_filterMap_digitValue? n.isDigit, List.length_pos_iff]
  exact n.nonempty

/-- **A numeral that ends where its digits end is read exactly**, or refused if it is too long. -/
theorem readInteger_of_trimStart {t rest : Text} (ht : trimStart t = n.text ++ rest)
    (hrest : ∀ c ∈ rest.head?, Text.isDigit c = false) :
    readInteger t =
      if maxIntegerDigits < n.digits.length then .error ⟨n.digits.length⟩
      else .ok (some n.value) := by
  simp only [readInteger, ht, n.takeSign_text_append, takeDigits_append n.isDigit hrest,
    length_filterMap_digitValue? n.isDigit]
  rw [if_neg n.values_ne_nil, digitsValue_eq_ofDigits]
  rfl

end IntegerNumeral

/-! ## Literals of a sign and digits -/

/-- Behind digits the text is a part of their literal: a further digit, a point, or an exponent. -/
inductive CarriesOn : Text → Prop where
  | digit {c : Char} {rest : Text} (hdigit : isDigit c = true) : CarriesOn (c :: rest)
  | point {rest : Text} : CarriesOn ('.' :: rest)
  | exponent {letter : Char} (hletter : letter = 'e' ∨ letter = 'E') (sign : Sign) {c : Char}
    (hdigit : isDigit c = true) {rest : Text} : CarriesOn (letter :: (sign.text ++ c :: rest))

theorem not_carriesOn_nil : ¬ CarriesOn [] := nofun

/-- A text with a literal at its front, after white space, that is a sign and digits only. -/
structure IntegerLiteral where
  blanks : Text
  sign : Sign
  digits : Text
  /-- The text behind the literal. -/
  rest : Text
  blank : Blank blanks
  nonempty : digits ≠ []
  isDigit : ∀ c ∈ digits, isDigit c = true
  ends : ¬ CarriesOn rest

namespace IntegerLiteral

variable (l : IntegerLiteral)

/-- The whole text. -/
def text : Text := l.blanks ++ (l.sign.text ++ (l.digits ++ l.rest))

/-- The integer that the digits denote, without the sign. -/
def size : Nat := Nat.ofDigits 10 (l.digits.filterMap digitValue?).reverse

/-- The integer that the literal denotes. -/
def value : Int := l.sign.apply l.size

/-- The sign and the digits. -/
def numeral : IntegerNumeral where
  sign := l.sign
  digits := l.digits
  nonempty := l.nonempty
  isDigit := l.isDigit

theorem trimStart_text : trimStart l.text = l.numeral.text ++ l.rest := by
  have hassoc : l.text = l.blanks ++ (l.numeral.text ++ l.rest) := by
    rw [text, IntegerNumeral.text, List.append_assoc]
    rfl
  rw [hassoc, trimStart_append_of_blank l.blank,
    trimStart_eq_self (l.numeral.head_text_append l.rest)]

theorem head_rest : ∀ c ∈ l.rest.head?, Text.isDigit c = false := by
  intro c hc
  obtain ⟨rest, hrest⟩ := List.head?_eq_some_iff.mp hc
  by_contra hdigit
  exact l.ends (hrest ▸ .digit (by simpa using hdigit))

theorem takeFraction_rest : takeFraction l.rest = ([], l.rest) := by
  unfold takeFraction
  split
  · rename_i hrest
    exact absurd (hrest ▸ .point) l.ends
  · rfl

theorem exponentAt_rest : exponentAt l.rest = 0 := by
  apply exponentAt_eq_zero
  intro letter sign c rest hletter hdigit hrest
  exact l.ends (hrest ▸ .exponent hletter sign hdigit)

/-! ## Reading -/

/-- The decimal literal that is read: nothing behind the digits counts. -/
theorem read?_text : DecimalLiteral.read? l.text =
    some ⟨l.sign.isMinus, l.digits.filterMap digitValue?, [], 0⟩ := by
  simp only [DecimalLiteral.read?, l.trimStart_text, l.numeral.takeSign_text_append,
    takeDigits_append l.numeral.isDigit l.head_rest, l.takeFraction_rest, l.exponentAt_rest]
  exact if_neg fun hnone => l.numeral.values_ne_nil hnone.1

theorem number_read?_text : Number.read? l.text =
    some (.ofBinary64 (.ofDecimal l.sign.isMinus l.size 0)) := by
  rw [Number.read?, Binary64.read?, l.read?_text, Option.map_some, Option.map_some,
    DecimalLiteral.value, size, ← digitsValue_eq_ofDigits]
  simp

/-- **An integer literal that is not too long is read exactly.** -/
theorem readInteger_text (h : l.digits.length ≤ maxIntegerDigits) :
    readInteger l.text = .ok (some l.value) := by
  rw [l.numeral.readInteger_of_trimStart l.trimStart_text l.head_rest]
  exact if_neg (not_lt.mpr h)

/-! ## Through the binary64 format -/

theorem abs_value : |l.value| = l.size := l.sign.abs_apply l.size

theorem isMinus_of_size_pos (h : 0 < l.size) : l.sign.isMinus = decide (l.value < 0) := by
  unfold value Sign.apply
  cases l.sign.isMinus with
  | true => exact (decide_eq_true (by simpa using h)).symm
  | false => exact (decide_eq_false (by simp)).symm

theorem number_read?_of_toInt? {n : Int}
    (h : (Binary64.ofDecimal l.sign.isMinus l.size 0).toInt? = some n) :
    Number.read? l.text = some (.int n) := by
  rw [number_read?_text, Number.ofBinary64, h]

/-- **Up to 2⁵³ an integer is kept.** -/
theorem number_read?_exact (h : l.size ≤ 2 ^ 53) : Number.read? l.text = some (.int l.value) :=
  l.number_read?_of_toInt? (Binary64.toInt?_ofDecimal l.sign.isMinus h)

/-- **Above that it is rounded**, as long as it is finite. -/
theorem number_read?_near (h : l.size < 2 ^ 1024 - 2 ^ 970) :
    ∃ r : Int, Number.read? l.text = some (.int r) ∧ |r - l.value| * 2 ^ 53 ≤ l.size := by
  by_cases hsmall : l.size ≤ 2 ^ 53
  · refine ⟨l.value, l.number_read?_exact hsmall, ?_⟩
    rw [sub_self, abs_zero, zero_mul]
    exact Int.natCast_nonneg _
  · have hn : 2 ^ 52 ≤ l.size := by omega
    obtain ⟨r, hread, hnear⟩ := Binary64.toInt?_ofDecimal_near l.sign.isMinus hn h
    refine ⟨l.sign.apply r, l.number_read?_of_toInt? hread, ?_⟩
    rw [value, Sign.abs_apply_sub_apply]
    exact hnear

theorem number_read?_infinite (h : 2 ^ 1024 - 2 ^ 970 ≤ l.size) :
    Number.read? l.text = some (.float (.infinity l.sign.isMinus)) := by
  have hinfinity (negative : Bool) : (Binary64.infinity negative).toInt? = none := rfl
  rw [number_read?_text, Binary64.ofDecimal_eq_infinity _ h, Number.ofBinary64, hinfinity]

/-! ## All sizes -/

/-- What becomes of an integer literal that is read as a number. -/
structure Read : Prop where
  exact : |l.value| ≤ 2 ^ 53 → Number.read? l.text = some (.int l.value)
  near : |l.value| < 2 ^ 1024 - 2 ^ 970 →
    ∃ r : Int, Number.read? l.text = some (.int r) ∧ |r - l.value| * 2 ^ 53 ≤ |l.value|
  infinite : 2 ^ 1024 - 2 ^ 970 ≤ |l.value| →
    Number.read? l.text = some (.float (.infinity (decide (l.value < 0))))
  /-- A literal that is short enough is the same number if it is read as an integer. -/
  agrees : |l.value| ≤ 2 ^ 53 → l.digits.length ≤ maxIntegerDigits →
    ∃ n : Int, readInteger l.text = .ok (some n) ∧ Number.read? l.text = some (.int n)

/-- **An integer literal of any length and script is kept, rounded, or infinite**, by its size. -/
theorem read_integerLiteral : l.Read := by
  have hlimit : ((2 ^ 1024 - 2 ^ 970 : Nat) : Int) = 2 ^ 1024 - 2 ^ 970 :=
    Binary64.cast_two_pow_sub (by decide)
  constructor
  case exact =>
    intro h
    rw [l.abs_value] at h
    exact l.number_read?_exact (by exact_mod_cast h)
  case near =>
    intro h
    rw [l.abs_value, ← hlimit, Nat.cast_lt] at h
    rw [l.abs_value]
    exact l.number_read?_near h
  case infinite =>
    intro h
    rw [l.abs_value, ← hlimit, Nat.cast_le] at h
    have hbound {i j : Nat} (hij : i < j) : 0 < 2 ^ j - 2 ^ i :=
      Nat.sub_pos_of_lt (Nat.pow_lt_pow_right (by decide) hij)
    have hpos : 0 < l.size := lt_of_lt_of_le (hbound (by decide)) h
    rw [l.number_read?_infinite h, l.isMinus_of_size_pos hpos]
  case agrees =>
    intro h hshort
    rw [l.abs_value] at h
    exact ⟨l.value, l.readInteger_text hshort, l.number_read?_exact (by exact_mod_cast h)⟩

/-- A minus sign and a row of nines in Devanagari. -/
def nines (n : Nat) (hn : n ≠ 0) : IntegerLiteral where
  blanks := [' ']
  sign := .minus
  digits := List.replicate n '९'
  rest := []
  blank := by decide
  nonempty := by simpa using hn
  isDigit c hc := by
    rw [List.eq_of_mem_replicate hc]
    decide
  ends := not_carriesOn_nil

/-- Fifteen nines are kept, twenty are rounded, and four hundred are infinite. -/
theorem read_integerLiteral_nines :
    Number.read? (nines 15 (by decide)).text = some (.int (1 - 10 ^ 15)) ∧
      (∃ r : Int, Number.read? (nines 20 (by decide)).text = some (.int r) ∧
        |r - (1 - 10 ^ 20)| * 2 ^ 53 ≤ 10 ^ 20 - 1) ∧
      Number.read? (nines 400 (by decide)).text = some (.float (.infinity true)) := by
  have h15 : (nines 15 (by decide)).value = 1 - 10 ^ 15 := by decide +kernel
  have h20 : (nines 20 (by decide)).value = 1 - 10 ^ 20 := by decide +kernel
  have h400 : (nines 400 (by decide)).value = 1 - 10 ^ 400 := by decide +kernel
  have hnegative : decide ((1 - 10 ^ 400 : Int) < 0) = true := by decide +kernel
  have hkept := (nines 15 (by decide)).read_integerLiteral.exact
  have hnear := (nines 20 (by decide)).read_integerLiteral.near
  have hinfinite := (nines 400 (by decide)).read_integerLiteral.infinite
  rw [h15] at hkept
  rw [h20] at hnear
  rw [h400, hnegative] at hinfinite
  exact ⟨hkept (by decide +kernel), hnear (by decide +kernel), hinfinite (by decide +kernel)⟩

end IntegerLiteral

end Widgetry
