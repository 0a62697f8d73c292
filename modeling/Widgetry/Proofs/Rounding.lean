import Widgetry.Proofs.Nearest

/-!
# Integers that are rounded

A rounded quotient is within half a unit of the quotient (`roundHalfEven_near`). So an integer from
2⁵² on, which the format has to 53 binary digits, becomes an integer that differs from it by at most
one part in 2⁵³ (`toInt?_ofDecimal_near`), unless it is too large: from half a unit above the largest
finite number on it becomes infinity (`ofDecimal_eq_infinity`).
-/

namespace Widgetry

namespace Binary64

/-! ## Quotients -/

/-- **A rounded quotient is within half a unit of the quotient.** -/
theorem roundHalfEven_near (num : Nat) {den : Nat} (hden : 0 < den) :
    2 * num ≤ (2 * roundHalfEven num den + 1) * den ∧
      2 * roundHalfEven num den * den ≤ 2 * num + den := by
  have hdivision := Nat.div_add_mod num den
  have hmod := Nat.mod_lt num hden
  have hdown : (2 * (num / den) + 1) * den = 2 * (den * (num / den)) + den := by ring
  have hup : 2 * (num / den + 1) * den = 2 * (den * (num / den)) + 2 * den := by ring
  have hdown' : 2 * (num / den) * den = 2 * (den * (num / den)) := by ring
  have hup' : (2 * (num / den + 1) + 1) * den = 2 * (den * (num / den)) + 3 * den := by ring
  unfold roundHalfEven
  dsimp only
  split_ifs <;> constructor <;> omega

/-! ## Significands -/

/-- The last place of an integer from 2⁵² on: the power of two in which it is counted. -/
def place (n : Nat) : Nat := Nat.log2 n - 52

/-- An integer in units of its last place, rounded. -/
def rounded (n : Nat) : Nat := roundHalfEven n (2 ^ place n)

section

variable {n : Nat} (hn : 2 ^ 52 ≤ n)

include hn

theorem log2_eq_place : Nat.log2 n = place n + 52 := by
  have hlog : 52 ≤ Nat.log2 n := (Nat.le_log2 (by omega)).mpr hn
  unfold place
  omega

theorem place_bounds : 2 ^ 52 * 2 ^ place n ≤ n ∧ n < 2 ^ 53 * 2 ^ place n := by
  have hlow : 2 ^ Nat.log2 n ≤ n := Nat.log2_self_le (by omega)
  have hhigh : n < 2 ^ (Nat.log2 n + 1) := Nat.lt_log2_self
  rw [log2_eq_place hn] at hlow hhigh
  constructor
  · rw [← pow_add, Nat.add_comm]
    exact hlow
  · rw [← pow_add, Nat.add_comm]
    exact hhigh

/-- Rounding may carry into one more digit, and then it ends in a power of two. -/
theorem rounded_bounds : 2 ^ 52 ≤ rounded n ∧ rounded n ≤ 2 ^ 53 := by
  obtain ⟨hlow, hhigh⟩ := place_bounds hn
  have hunit : 0 < 2 ^ place n := Nat.two_pow_pos (place n)
  obtain ⟨hnear, hnear'⟩ := roundHalfEven_near n hunit
  have hbelow : 2 ^ 53 * 2 ^ place n ≤ (2 * rounded n + 1) * 2 ^ place n := by
    calc 2 ^ 53 * 2 ^ place n = 2 * (2 ^ 52 * 2 ^ place n) := by ring
      _ ≤ 2 * n := Nat.mul_le_mul_left 2 hlow
      _ ≤ _ := hnear
  have habove : 2 * rounded n * 2 ^ place n < (2 ^ 54 + 1) * 2 ^ place n := by
    calc 2 * rounded n * 2 ^ place n ≤ 2 * n + 2 ^ place n := hnear'
      _ < 2 * (2 ^ 53 * 2 ^ place n) + 2 ^ place n := by omega
      _ = (2 ^ 54 + 1) * 2 ^ place n := by ring
  have hbelow' := Nat.le_of_mul_le_mul_right hbelow hunit
  have habove' := Nat.lt_of_mul_lt_mul_right habove
  omega

/-- **Rounding to 53 digits changes an integer by one part in 2⁵³ at most.** -/
theorem rounded_near : |((rounded n * 2 ^ place n : Nat) : Int) - n| * 2 ^ 53 ≤ n := by
  obtain ⟨hlow, -⟩ := place_bounds hn
  obtain ⟨hnear, hnear'⟩ := roundHalfEven_near n (Nat.two_pow_pos (place n))
  have hhalf : |((rounded n * 2 ^ place n : Nat) : Int) - n| * 2 ≤ ((2 ^ place n : Nat) : Int) := by
    have hup : (2 * rounded n + 1) * 2 ^ place n = 2 * (rounded n * 2 ^ place n) + 2 ^ place n := by
      ring
    have hdown : 2 * rounded n * 2 ^ place n = 2 * (rounded n * 2 ^ place n) := by ring
    rw [← rounded] at hnear hnear'
    rw [hup] at hnear
    rw [hdown] at hnear'
    rcases abs_cases (((rounded n * 2 ^ place n : Nat) : Int) - n) with ⟨habs, -⟩ | ⟨habs, -⟩
    · rw [habs]
      omega
    · rw [habs]
      omega
  calc |((rounded n * 2 ^ place n : Nat) : Int) - n| * 2 ^ 53
      = |((rounded n * 2 ^ place n : Nat) : Int) - n| * 2 * 2 ^ 52 := by ring
    _ ≤ ((2 ^ place n : Nat) : Int) * 2 ^ 52 := Int.mul_le_mul_of_nonneg_right hhalf (by decide)
    _ = ((2 ^ 52 * 2 ^ place n : Nat) : Int) := by push_cast; ring
    _ ≤ n := by exact_mod_cast hlow

theorem ofRatio_rounded (negative : Bool) :
    ofRatio negative n 1 = ofMagnitude negative ((place n + 1074) * 2 ^ 52 + rounded n) := by
  have hpos : 0 < n := by omega
  have hplace : lastPlace n 1 = (place n : Int) := by
    rw [lastPlace_one hpos, log2_eq_place hn]
    omega
  have hfraction : twoPowFraction (place n : Int) = (2 ^ place n, 1) := rfl
  have hexponent : ((place n : Int) + 1074).toNat = place n + 1074 := by omega
  simp only [ofRatio, if_neg hpos.ne', hplace, hfraction, hexponent, mul_one, one_mul]
  rfl

/-! ## The largest integers -/

/-- **An integer is too large from half a unit above the largest finite number on.** -/
theorem overflows_iff :
    infinityBits ≤ (place n + 1074) * 2 ^ 52 + rounded n ↔ 2 ^ 1024 - 2 ^ 970 ≤ n := by
  obtain ⟨hlow, hhigh⟩ := place_bounds hn
  have hnearest := nearestBits_roundHalfEven (k := place n + 1074) (Nat.two_pow_pos (place n)) hhigh
    (Or.inr hlow)
  have hsize : (n : ℚ) / (2 ^ place n : ℕ) * 2 ^ (((place n + 1074 : ℕ) : ℤ) - 1074) = n := by
    rw [Nat.cast_add, Nat.cast_ofNat, add_sub_cancel_right, zpow_natCast]
    push_cast
    field_simp
  rw [hsize] at hnearest
  exact hnearest.overflows_iff.trans overflow_le_natCast

end

/-- The number whose significand has been rounded. A carry into one more digit is a step into the
next binade, and the number is the same. -/
theorem toInt?_ofMagnitude (negative : Bool) {e m : Nat} (hm : 2 ^ 52 ≤ m) (hm' : m ≤ 2 ^ 53)
    (hbits : (e + 1074) * 2 ^ 52 + m < infinityBits) :
    (ofMagnitude negative ((e + 1074) * 2 ^ 52 + m)).toInt? =
      some (if negative then -((m * 2 ^ e : Nat) : Int) else (m * 2 ^ e : Nat)) := by
  have hinfinity : infinityBits = 2047 * 2 ^ 52 := rfl
  rw [hinfinity] at hbits
  rcases hm'.lt_or_eq with hlt | rfl
  · obtain ⟨hfinite, hsignificand, hscale⟩ :=
      ofMagnitude_normal negative (e + 1075) (by omega) (by omega) hm hlt
    rw [show e + 1075 - 1 = e + 1074 from rfl] at hfinite hsignificand hscale
    have hexponent : ((e + 1075 : Nat) : Int) - 1075 = .ofNat e := by
      rw [Int.ofNat_eq_natCast]
      omega
    rw [toInt?_of_scale_ofNat hfinite (hscale.trans hexponent), hsignificand]
    rfl
  · obtain ⟨hfinite, hsignificand, hscale⟩ :=
      ofMagnitude_normal negative (e + 1076) (m := 2 ^ 52) (by omega) (by omega) le_rfl (by decide)
    have hcarry : (e + 1076 - 1) * 2 ^ 52 + 2 ^ 52 = (e + 1074) * 2 ^ 52 + 2 ^ 53 := by omega
    rw [hcarry] at hfinite hsignificand hscale
    have hexponent : ((e + 1076 : Nat) : Int) - 1075 = .ofNat (e + 1) := by
      rw [Int.ofNat_eq_natCast]
      omega
    have hvalue : 2 ^ 52 * 2 ^ (e + 1) = 2 ^ 53 * 2 ^ e := by ring
    rw [toInt?_of_scale_ofNat hfinite (hscale.trans hexponent), hsignificand, hvalue]
    rfl

/-! ## Integers of any size -/

/-- **A large integer is read as an integer** that differs from it by one part in 2⁵³ at most. -/
theorem toInt?_ofDecimal_near (negative : Bool) {n : Nat} (hn : 2 ^ 52 ≤ n)
    (hlt : n < 2 ^ 1024 - 2 ^ 970) :
    ∃ r : Nat, (ofDecimal negative n 0).toInt? = some (if negative then -(r : Int) else r) ∧
      |(r : Int) - n| * 2 ^ 53 ≤ n := by
  obtain ⟨hrounded, hrounded'⟩ := rounded_bounds hn
  rw [← not_le, ← overflows_iff hn, not_le] at hlt
  refine ⟨rounded n * 2 ^ place n, ?_, rounded_near hn⟩
  rw [ofDecimal_zero negative (by omega), ofRatio_rounded hn,
    toInt?_ofMagnitude negative hrounded hrounded' hlt]

/-- **What is too large is read as infinity.** -/
theorem ofDecimal_eq_infinity (negative : Bool) {n : Nat} (h : 2 ^ 1024 - 2 ^ 970 ≤ n) :
    ofDecimal negative n 0 = infinity negative := by
  apply (isRounded_ofDecimal negative n 0).infinite
  rw [zpow_zero, mul_one]
  exact overflow_le_natCast.mpr h

end Binary64

end Widgetry
