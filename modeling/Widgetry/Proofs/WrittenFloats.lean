import Widgetry.Proofs.LongestLiterals
import Widgetry.Proofs.WrittenIntegers
import Widgetry.Writer.Line

/-!
# Binary64 numbers that are written and read back

A binary64 number is written with all its digits, so the written numeral denotes it exactly, and
what is read is the nearest number, which is the number itself (`Binary64.isRounded_self`). Infinity
is written as a number that is rounded to it. So every number that can have been read is read back
from its written form (`Number.read?_number`).
-/

namespace Widgetry

open Text

/-! ## Rounding a number of the format -/

namespace Binary64

theorem ofMagnitude_self {x : Binary64} (hx : x.magnitude ≤ infinityBits) :
    ofMagnitude x.negative x.magnitude = x := by
  obtain ⟨negative, magnitude, hlt⟩ := x
  have hmin : min magnitude infinityBits = magnitude := min_eq_left hx
  simp [ofMagnitude, hmin]

/-- **A number of the format is its own rounding.** -/
theorem isRounded_self {x : Binary64} (hx : x.magnitude ≤ infinityBits) :
    IsRounded x.negative (valueOfBits x.magnitude) x := by
  have hnearest : NearestBits (valueOfBits x.magnitude) x.magnitude := by
    constructor
    · intro b
      rw [sub_self, abs_zero]
      exact abs_nonneg _
    · intro b hne htie
      rw [sub_self, abs_zero, abs_eq_zero, sub_eq_zero] at htie
      exact absurd (strictMono_valueOfBits.injective htie) hne
  have hrounded := isRounded_ofMagnitude x.negative (valueOfBits_nonneg _) hnearest
  rwa [ofMagnitude_self hx] at hrounded

end Binary64

/-! ## Written numerals -/

namespace DecimalNumeral

/-- A numeral that makes up the whole text is read. -/
theorem read?_text {l : DecimalNumeral} (hwhole : l.whole ≠ []) {x : Binary64}
    (hx : Binary64.IsRounded l.sign.isMinus l.size x) : Binary64.read? l.text = some x := by
  have hends : l.Ends [] := ⟨by simp, fun _ e => by simp [ExponentPart.text], by simp⟩
  have hfront : l.text =
      (IntegerNumeral.mk l.sign l.whole hwhole l.isDigit_whole).text ++
        (l.pointText ++ l.exponentText) := by
    rw [text, IntegerNumeral.text, List.append_assoc]
  have htrim : trimStart l.text = l.text ++ [] := by
    rw [List.append_nil]
    apply trimStart_eq_self
    rw [hfront]
    exact IntegerNumeral.head_text_append _ _
  rw [Binary64.read?, read?_of_trimStart hends htrim, Option.map_some,
    l.isRounded_literal.unique hx]

/-- The digits of an integer, with a sign in front of them and a power of ten behind them. -/
def ofDigits (negative : Bool) (n : Nat) (power : Option Int) : DecimalNumeral where
  sign := if negative then .minus else .none
  whole := ofNat n
  fraction := none
  exponent := power.map fun p => ⟨'e', Or.inl rfl, (IntegerLiteral.ofInt p).numeral⟩
  isDigit_whole := isDigit_of_mem_ofNat
  isDigit_fraction := by simp
  nonempty := Or.inl (ofNat_ne_nil n)

theorem text_ofDigits (negative : Bool) (n : Nat) (power : Option Int) :
    (ofDigits negative n power).text =
      (if negative then ['-'] else []) ++
        (ofNat n ++ (power.map fun p => 'e' :: Text.ofInt p).getD []) := by
  have hsign : (ofDigits negative n power).sign.text = if negative then ['-'] else [] := by
    cases negative <;> rfl
  have hpower (p : Int) : (IntegerLiteral.ofInt p).numeral.text = Text.ofInt p := by
    rw [← IntegerLiteral.text_ofInt, IntegerLiteral.text, IntegerNumeral.text]
    exact congrArg (_ ++ ·) (List.append_nil _).symm
  rw [text, hsign]
  cases power with
  | none => rfl
  | some p => simp [ofDigits, pointText, exponentText, ExponentPart.text, hpower]

theorem size_ofDigits (negative : Bool) (n : Nat) (power : Option Int) :
    (ofDigits negative n power).size = n * 10 ^ power.getD 0 := by
  have hwhole : rowValue (ofNat n) = n := by
    rw [rowValue, ← digitsValue_eq_ofDigits, digitsValue_ofNat]
  have hpower : (ofDigits negative n power).power = power.getD 0 := by
    cases power with
    | none => rfl
    | some p => exact IntegerLiteral.value_ofInt p
  have hempty : rowValue [] = 0 := rfl
  show ((rowValue (ofNat n) : ℚ) + (rowValue [] : ℕ) / 10 ^ 0) * 10 ^ _ = _
  rw [hwhole, hempty, hpower]
  simp

theorem read?_ofDigits {negative : Bool} {n : Nat} {power : Option Int} {x : Binary64}
    (hx : Binary64.IsRounded negative (n * 10 ^ power.getD 0) x) :
    Binary64.read? (ofDigits negative n power).text = some x := by
  have hsign : (ofDigits negative n power).sign.isMinus = negative := by cases negative <;> rfl
  apply read?_text (ofNat_ne_nil n)
  rwa [hsign, size_ofDigits]

end DecimalNumeral

/-! ## Numbers -/

/-- **A written binary64 number is read back**, a fraction as well as an infinity. -/
theorem Binary64.read?_binary64 {x : Binary64} (hx : x.magnitude ≤ infinityBits) :
    Binary64.read? (Writer.binary64 x) = some x := by
  rcases isFinite_or_eq_infinity hx with hfinite | hinfinite
  · have hself := isRounded_self hx
    rw [← significand_mul_zpow] at hself
    cases hscale : x.scale with
    | ofNat e =>
      have htext : Writer.binary64 x =
          (DecimalNumeral.ofDigits x.negative (x.significand * twoPow e) none).text := by
        rw [DecimalNumeral.text_ofDigits, Writer.binary64, hscale, if_pos hfinite]
        simp
      have hsize : ((x.significand * twoPow e : ℕ) : ℚ) * 10 ^ (0 : ℤ) =
          x.significand * 2 ^ x.scale := by
        rw [hscale, Int.ofNat_eq_natCast, zpow_natCast]
        simp [twoPow]
      rw [htext]
      exact DecimalNumeral.read?_ofDigits (hsize ▸ hself)
    | negSucc e =>
      have htext : Writer.binary64 x =
          (DecimalNumeral.ofDigits x.negative (x.significand * Nat.pow 5 (e + 1))
            (some (.negSucc e))).text := by
        rw [DecimalNumeral.text_ofDigits, Writer.binary64, hscale, if_pos hfinite]
        exact congrArg (_ ++ ·) (List.append_assoc _ _ _)
      have hsize : ((x.significand * Nat.pow 5 (e + 1) : ℕ) : ℚ) * 10 ^ Int.negSucc e =
          x.significand * 2 ^ x.scale := by
        have hten : (10 : ℚ) ^ (e + 1) = 2 ^ (e + 1) * 5 ^ (e + 1) := by
          rw [← mul_pow]
          norm_num
        rw [hscale, zpow_negSucc, zpow_negSucc, hten, Nat.pow_eq]
        push_cast
        field_simp
      rw [htext]
      exact DecimalNumeral.read?_ofDigits (hsize ▸ hself)
  · have htext (negative : Bool) : Writer.binary64 (infinity negative) =
        (DecimalNumeral.ofDigits negative 1 (some 999)).text := by
      rw [DecimalNumeral.text_ofDigits]
      cases negative <;> decide
    have hsize : overflow ≤ (1 : ℕ) * 10 ^ (999 : ℤ) := by
      rw [Nat.cast_one, one_mul]
      calc overflow ≤ 10 ^ 400 := overflow_le_ten_pow
        _ = 10 ^ (400 : ℤ) := (zpow_natCast _ 400).symm
        _ ≤ 10 ^ (999 : ℤ) := zpow_le_zpow_right₀ (by norm_num) (by norm_num)
    rw [hinfinite, htext]
    exact DecimalNumeral.read?_ofDigits (isRounded_infinity _ hsize)

/-- A size with a sign is an integer other than zero. -/
theorem Binary64.eq_of_withSign_eq_intCast {negative : Bool} {size : ℚ} {n : Int} (hsize : 0 ≤ size)
    (hn : n ≠ 0) (h : withSign negative size = n) :
    negative = decide (n < 0) ∧ size = (n.natAbs : ℕ) := by
  rw [Nat.cast_natAbs, Int.cast_abs, ← h]
  cases negative with
  | false =>
    have hle : (0 : ℚ) ≤ n := h ▸ hsize
    exact ⟨(decide_eq_false (not_lt.mpr (by exact_mod_cast hle))).symm, (abs_of_nonneg hsize).symm⟩
  | true =>
    have hle : (n : ℚ) ≤ 0 := h ▸ neg_nonpos.mpr hsize
    have hlt : n < 0 := lt_of_le_of_ne (by exact_mod_cast hle) hn
    refine ⟨(decide_eq_true hlt).symm, ?_⟩
    show size = |-size|
    rw [abs_neg, abs_of_nonneg hsize]

/-- **The integer that a number is is rounded to the number**, however many digits it has. -/
theorem Binary64.toInt?_ofDecimal_of_toInt? {x : Binary64} (hx : x.magnitude ≤ infinityBits)
    {n : Int} (h : x.toInt? = some n) :
    (ofDecimal (decide (n < 0)) n.natAbs 0).toInt? = some n := by
  have hfinite : x.isFinite = true := by
    by_contra hinfinite
    simp [toInt?, hinfinite] at h
  have hvalue := (toInt?_eq_some_iff hfinite).mp h
  rw [toRat_eq] at hvalue
  rcases eq_or_ne n 0 with rfl | hne
  · exact toInt?_ofDecimal false (Nat.zero_le _)
  · obtain ⟨hsign, hsize⟩ := eq_of_withSign_eq_intCast (valueOfBits_nonneg _) hne hvalue
    have hrounded := isRounded_ofDecimal (decide (n < 0)) n.natAbs 0
    rw [zpow_zero, mul_one, ← hsize, ← hsign] at hrounded
    rw [← hsign, hrounded.unique (isRounded_self hx), h]

/-- **A number that can have been read is read back** from its written form. -/
theorem Number.read?_number {x : Binary64} (hx : x.magnitude ≤ Binary64.infinityBits) :
    Number.read? (Writer.number (.ofBinary64 x)) = some (.ofBinary64 x) := by
  unfold ofBinary64
  cases h : x.toInt? with
  | some n =>
    have hsign : (IntegerLiteral.ofInt n).sign.isMinus = decide (n < 0) := by
      rw [IntegerLiteral.ofInt]
      by_cases hn : n < 0 <;> simp [hn, Sign.isMinus]
    have hread := (IntegerLiteral.ofInt n).number_read?_of_toInt? (n := n)
    rw [hsign, IntegerLiteral.size_ofInt, IntegerLiteral.text_ofInt] at hread
    exact hread (Binary64.toInt?_ofDecimal_of_toInt? hx h)
  | none =>
    show Number.read? (Writer.binary64 x) = _
    rw [Number.read?, Binary64.read?_binary64 hx, Option.map_some, ofBinary64, h]

/-- What has been read can be written and read again. -/
theorem Number.read?_number_of_read? {t : Text} {n : Number} (h : Number.read? t = some n) :
    Number.read? (Writer.number n) = some n := by
  obtain ⟨x, hx, rfl⟩ := Option.map_eq_some_iff.mp h
  obtain ⟨d, -, rfl⟩ := Option.map_eq_some_iff.mp hx
  exact read?_number (Binary64.magnitude_ofDecimal_le _ _ _)

end Widgetry
