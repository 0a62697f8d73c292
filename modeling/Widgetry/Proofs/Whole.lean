import Mathlib.Algebra.Order.Field.Rat
import Mathlib.Tactic.FieldSimp
import Mathlib.Tactic.NormNum
import Mathlib.Tactic.Ring
import Widgetry.Number.Literal

/-!
# Whole numbers

A finite binary64 number is kept as an integer exactly if its value is one (`toInt?_eq_some_iff`),
and no literal is read as something that is not a number. So a number that has been read is an
integer, a fraction, or an infinity (`reduced_of_read?`). Up to 2⁵³ the format has every integer, so
that reading an integer through it is exact (`toInt?_ofDecimal`).
-/

namespace Widgetry

namespace Binary64

/-! ## Values -/

/-- The value of a finite number. -/
def toRat (x : Binary64) : ℚ := (if x.negative then -1 else 1) * x.significand * 2 ^ x.scale

/-- A natural number with the sign of `x`. -/
def signed (x : Binary64) (n : Nat) : Int := if x.negative then -n else n

theorem cast_signed (x : Binary64) (n : Nat) :
    (x.signed n : ℚ) = (if x.negative then -1 else 1) * n := by
  unfold signed
  split
  · simp
  · simp

theorem toInt?_of_scale_ofNat {x : Binary64} (hx : x.isFinite = true) {e : Nat}
    (he : x.scale = .ofNat e) : x.toInt? = some (x.signed (x.significand * 2 ^ e)) := by
  simp only [toInt?, hx, he, signed]
  rfl

theorem toInt?_of_scale_negSucc {x : Binary64} (hx : x.isFinite = true) {e : Nat}
    (he : x.scale = .negSucc e) :
    x.toInt? = if 2 ^ (e + 1) ∣ x.significand then some (x.signed (x.significand / 2 ^ (e + 1)))
      else none := by
  simp only [toInt?, hx, he, signed, Nat.dvd_iff_mod_eq_zero]
  rfl

theorem toRat_of_scale_ofNat {x : Binary64} {e : Nat} (he : x.scale = .ofNat e) :
    x.toRat = x.signed (x.significand * 2 ^ e) := by
  rw [toRat, he, cast_signed]
  push_cast
  rw [Int.ofNat_eq_natCast, zpow_natCast, mul_assoc]

theorem toRat_of_scale_negSucc {x : Binary64} {e : Nat} (he : x.scale = .negSucc e) :
    x.toRat * 2 ^ (e + 1) = x.signed x.significand := by
  rw [toRat, he, cast_signed, zpow_negSucc]
  field_simp

/-- **A finite number is kept as the integer that is its value**, if there is one. -/
theorem toInt?_eq_some_iff {x : Binary64} (hx : x.isFinite = true) {n : Int} :
    x.toInt? = some n ↔ x.toRat = n := by
  cases he : x.scale with
  | ofNat e =>
    rw [toInt?_of_scale_ofNat hx he, toRat_of_scale_ofNat he, Option.some.injEq, Int.cast_inj]
  | negSucc e =>
    have hvalue := toRat_of_scale_negSucc he
    have hpos : (2 : ℚ) ^ (e + 1) ≠ 0 := by positivity
    -- the value is the quotient of the significand by a power of two
    have hiff : x.toRat = n ↔ x.signed x.significand = n * 2 ^ (e + 1) := by
      rw [← mul_left_inj' hpos, hvalue]
      norm_cast
    rw [hiff, toInt?_of_scale_negSucc hx he]
    split
    · rename_i hdvd
      obtain ⟨k, hk⟩ := hdvd
      have hsigned : x.signed x.significand = x.signed k * 2 ^ (e + 1) := by
        rw [hk]
        unfold signed
        split
        · push_cast
          ring
        · push_cast
          ring
      rw [hsigned, hk, Nat.mul_div_cancel_left _ (by positivity), Option.some.injEq]
      exact (mul_left_inj' (by positivity)).symm
    · rename_i hdvd
      refine iff_of_false (by simp) ?_
      intro hn
      apply hdvd
      have habs := congrArg Int.natAbs hn
      have hleft : (x.signed x.significand).natAbs = x.significand := by
        unfold signed
        split
        · simp
        · simp
      rw [hleft, Int.natAbs_mul, Int.natAbs_pow] at habs
      exact ⟨n.natAbs, by rw [habs, mul_comm]; rfl⟩

/-! ## Infinities -/

/-- Rounding ends in a finite number or in an infinity. -/
theorem isFinite_or_eq_infinity {x : Binary64} (hx : x.magnitude ≤ infinityBits) :
    x.isFinite = true ∨ x = infinity x.negative := by
  by_cases h : x.magnitude < infinityBits
  · exact Or.inl (by simpa [isFinite] using h)
  · have hmagnitude : x.magnitude = infinityBits := le_antisymm hx (not_lt.mp h)
    obtain ⟨negative, magnitude, hlt⟩ := x
    obtain rfl : magnitude = infinityBits := hmagnitude
    exact Or.inr (by simp [infinity, ofMagnitude])

theorem magnitude_ofDecimal_le (negative : Bool) (n : Nat) (exponent : Int) :
    (ofDecimal negative n exponent).magnitude ≤ infinityBits := by
  have hle : ∀ bits, (ofMagnitude negative bits).magnitude ≤ infinityBits :=
    fun bits => Nat.min_le_right _ _
  have hratio : ∀ num den, (ofRatio negative num den).magnitude ≤ infinityBits := by
    intro num den
    unfold ofRatio
    split
    · exact hle _
    · exact hle _
  unfold ofDecimal
  split
  · exact hle _
  · split
    · exact hle _
    · split
      · exact hle _
      · split
        · exact hratio _ _
        · exact hratio _ _

/-! ## Integers in the format -/

theorem twoPowFraction_neg (d : Nat) : twoPowFraction (-d) = (1, 2 ^ d) := by
  cases d with
  | zero => rfl
  | succ d => rfl

theorem roundHalfEven_one (n : Nat) : roundHalfEven n 1 = n := by
  simp [roundHalfEven, Nat.mod_one]

/-- The last place of an integer is fifty-two below its leading binary digit. -/
theorem lastPlace_one {n : Nat} (hpos : 0 < n) : lastPlace n 1 = (Nat.log2 n : Int) - 52 := by
  have hlow : 2 ^ Nat.log2 n ≤ n := Nat.log2_self_le hpos.ne'
  have hone : Nat.log2 1 = 0 := by decide
  simp only [lastPlace, hone, Nat.cast_zero, sub_zero]
  have hfraction : twoPowFraction (Nat.log2 n) = (2 ^ Nat.log2 n, 1) := rfl
  rw [hfraction, if_neg (by omega)]
  omega

/-- The bits of an integer below 2⁵³: its leading digit is shifted to the place of the hidden bit. -/
theorem ofRatio_one (negative : Bool) {n : Nat} (hpos : 0 < n) (hn : n < 2 ^ 53) :
    ∃ d, d ≤ 52 ∧ 2 ^ 52 ≤ n * 2 ^ d ∧ n * 2 ^ d < 2 ^ 53 ∧
      ofRatio negative n 1 = ofMagnitude negative ((1074 - d) * 2 ^ 52 + n * 2 ^ d) := by
  have hlow : 2 ^ Nat.log2 n ≤ n := Nat.log2_self_le hpos.ne'
  have hhigh : n < 2 ^ (Nat.log2 n + 1) := Nat.lt_log2_self
  have hlog : Nat.log2 n < 53 := (Nat.log2_lt hpos.ne').mpr hn
  refine ⟨52 - Nat.log2 n, by omega, ?_, ?_, ?_⟩
  · calc 2 ^ 52 = 2 ^ Nat.log2 n * 2 ^ (52 - Nat.log2 n) := by rw [← pow_add]; congr 1; omega
      _ ≤ n * 2 ^ (52 - Nat.log2 n) := Nat.mul_le_mul_right _ hlow
  · calc n * 2 ^ (52 - Nat.log2 n) < 2 ^ (Nat.log2 n + 1) * 2 ^ (52 - Nat.log2 n) :=
          Nat.mul_lt_mul_of_pos_right hhigh (by positivity)
      _ = 2 ^ 53 := by rw [← pow_add]; congr 1; omega
  · have hplace : lastPlace n 1 = -((52 - Nat.log2 n : Nat) : Int) := by
      rw [lastPlace_one hpos]
      omega
    have hexponent : (-((52 - Nat.log2 n : Nat) : Int) + 1074).toNat = 1074 - (52 - Nat.log2 n) := by
      omega
    simp only [ofRatio, if_neg hpos.ne', hplace, twoPowFraction_neg, hexponent, mul_one,
      roundHalfEven_one]
    rfl

/-- A number between the subnormal numbers and infinity, from its binade and its significand. -/
theorem ofMagnitude_normal (negative : Bool) (binade : Nat) {m : Nat} (hlow : 1 ≤ binade)
    (hhigh : binade < 2047) (hm : 2 ^ 52 ≤ m) (hm' : m < 2 ^ 53) :
    (ofMagnitude negative ((binade - 1) * 2 ^ 52 + m)).isFinite = true ∧
      (ofMagnitude negative ((binade - 1) * 2 ^ 52 + m)).significand = m ∧
      (ofMagnitude negative ((binade - 1) * 2 ^ 52 + m)).scale = binade - 1075 := by
  have hinfinity : infinityBits = 2047 * 2 ^ 52 := rfl
  have hbits : (binade - 1) * 2 ^ 52 + m < infinityBits := by
    rw [hinfinity]
    omega
  have hmagnitude : (ofMagnitude negative ((binade - 1) * 2 ^ 52 + m)).magnitude =
      (binade - 1) * 2 ^ 52 + m := min_eq_left hbits.le
  have hbinade : (ofMagnitude negative ((binade - 1) * 2 ^ 52 + m)).binade = binade := by
    rw [Binary64.binade, hmagnitude, show twoPow 52 = 2 ^ 52 from rfl]
    omega
  refine ⟨?_, ?_, ?_⟩
  · rw [isFinite, hmagnitude, decide_eq_true_eq]
    exact hbits
  · rw [significand, hbinade, hmagnitude, if_neg (by omega), show twoPow 52 = 2 ^ 52 from rfl]
    omega
  · rw [scale, hbinade]
    omega

theorem ofDecimal_zero (negative : Bool) {n : Nat} (hpos : 0 < n) :
    ofDecimal negative n 0 = ofRatio negative n 1 := by
  have hlog : ¬ (0 : Int) + Nat.log2 n + 1 < -400 := by omega
  unfold ofDecimal
  rw [if_neg hpos.ne', if_neg (by decide), if_neg hlog]
  show ofRatio negative (n * tenPow 0) 1 = _
  rw [show tenPow 0 = 1 from rfl, mul_one]

/-- **Integers up to 2⁵³ are read exactly.** -/
theorem toInt?_ofDecimal (negative : Bool) {n : Nat} (hn : n ≤ 2 ^ 53) :
    (ofDecimal negative n 0).toInt? = some (if negative then -(n : Int) else n) := by
  rcases Nat.eq_zero_or_pos n with rfl | hpos
  · -- zero has no leading digit
    cases negative
    · decide +kernel
    · decide +kernel
  rcases hn.lt_or_eq with hn | rfl
  · obtain ⟨d, hd, hlow, hhigh, hratio⟩ := ofRatio_one negative hpos hn
    obtain ⟨hfinite, hsignificand, hscale⟩ :=
      ofMagnitude_normal negative (1075 - d) (by omega) (by omega) hlow hhigh
    rw [show 1075 - d - 1 = 1074 - d by omega] at hfinite hsignificand hscale
    rw [ofDecimal_zero negative hpos, hratio, toInt?_eq_some_iff hfinite, toRat, hsignificand, hscale]
    have hexponent : ((1075 - d : Nat) : Int) - 1075 = -(d : Int) := by omega
    rw [hexponent, zpow_neg, zpow_natCast]
    cases negative
    · simp [ofMagnitude]
    · simp [ofMagnitude]
  · -- the one integer whose last binary digit is lost
    cases negative
    · decide +kernel
    · decide +kernel

end Binary64

/-! ## Numbers that have been read -/

namespace Number

/-- An integer, a fraction, or an infinity. -/
def Reduced : Number → Prop
  | int _ => True
  | float x =>
    (x.isFinite = true ∧ ∀ n : Int, x.toRat ≠ n) ∨ ∃ negative, x = Binary64.infinity negative

/-- **No number is read as a whole number in disguise**, or as something that is not a number. -/
theorem reduced_of_read? {t : Text} {n : Number} (h : read? t = some n) : n.Reduced := by
  obtain ⟨x, hx, rfl⟩ := Option.map_eq_some_iff.mp h
  obtain ⟨d, -, rfl⟩ := Option.map_eq_some_iff.mp hx
  have hle : d.value.magnitude ≤ Binary64.infinityBits := Binary64.magnitude_ofDecimal_le _ _ _
  unfold ofBinary64
  split
  · trivial
  · rename_i hwhole
    rcases Binary64.isFinite_or_eq_infinity hle with hfinite | hinfinite
    · refine Or.inl ⟨hfinite, ?_⟩
      intro n hn
      rw [(Binary64.toInt?_eq_some_iff hfinite).mpr hn] at hwhole
      exact absurd hwhole (by simp)
    · exact Or.inr ⟨_, hinfinite⟩

end Number

end Widgetry
