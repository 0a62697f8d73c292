import Mathlib.Algebra.Order.Field.Power
import Mathlib.Order.Monotone.Basic
import Mathlib.Tactic.Linarith
import Mathlib.Tactic.Positivity
import Widgetry.Proofs.Whole

/-!
# Correct rounding

The sixty-three bits of a magnitude, read as a natural number, grow with the value they denote, and
go on doing so beyond the finite numbers (`strictMono_valueOfBits`). So a size that is not negative
lies between two neighbours, and the nearest bits are one of these, the even one if both are as near
(`nearestBits_of_neighbour`). A rounded quotient leads to them (`exists_nearestBits_ofRatio`), and
they reach the bits of infinity from half a unit above the largest finite number on
(`NearestBits.overflows_iff`). What comes of a decimal number is thereby correctly rounded
(`isRounded_ofDecimal`), and correct rounding leaves no choice (`IsRounded.unique`).
-/

namespace Widgetry

namespace Binary64

/-! ## Values of magnitudes -/

/-- The value that magnitude bits denote. It goes on beyond the finite numbers, as if there were more
binades. -/
def valueOfBits (bits : Nat) : ℚ :=
  if bits / 2 ^ 52 = 0 then bits * 2 ^ (-1074 : ℤ)
  else (bits % 2 ^ 52 + 2 ^ 52 : Nat) * 2 ^ ((bits / 2 ^ 52 : Nat) - 1075 : ℤ)

/-- A size with a sign. -/
def withSign (negative : Bool) (size : ℚ) : ℚ := if negative then -size else size

theorem significand_mul_zpow (x : Binary64) :
    (x.significand : ℚ) * 2 ^ x.scale = valueOfBits x.magnitude := by
  have hpow : twoPow 52 = 2 ^ 52 := rfl
  rw [scale, significand, binade, hpow, valueOfBits]
  by_cases hsub : x.magnitude / 2 ^ 52 = 0
  · rw [if_pos hsub, if_pos hsub, hsub]
    rfl
  · have hmax : max (x.magnitude / 2 ^ 52) 1 = x.magnitude / 2 ^ 52 := by omega
    rw [if_neg hsub, if_neg hsub, hmax]

theorem toRat_eq (x : Binary64) : x.toRat = withSign x.negative (valueOfBits x.magnitude) := by
  rw [toRat, mul_assoc, significand_mul_zpow, withSign]
  split
  · exact neg_one_mul _
  · exact one_mul _

@[simp] theorem abs_withSign_sub_withSign (negative : Bool) (a b : ℚ) :
    |withSign negative a - withSign negative b| = |a - b| := by
  cases negative
  · rfl
  · show |-a - -b| = |a - b|
    rw [← neg_add', abs_neg, ← sub_eq_add_neg]

theorem valueOfBits_add {k m : Nat} (hm : m ≤ 2 ^ 53) (hk : k = 0 ∨ 2 ^ 52 ≤ m) :
    valueOfBits (k * 2 ^ 52 + m) = m * 2 ^ (k - 1074 : ℤ) := by
  rcases lt_or_ge m (2 ^ 52) with hsub | hnormal
  · obtain rfl : k = 0 := by omega
    have hbinade : (0 * 2 ^ 52 + m) / 2 ^ 52 = 0 := by omega
    rw [valueOfBits, if_pos hbinade, zero_mul, zero_add]
    norm_num
  · rcases hm.lt_or_eq with hlt | rfl
    · have hbinade : (k * 2 ^ 52 + m) / 2 ^ 52 = k + 1 := by omega
      have hfraction : (k * 2 ^ 52 + m) % 2 ^ 52 + 2 ^ 52 = m := by omega
      rw [valueOfBits, hbinade, if_neg (Nat.succ_ne_zero k), hfraction]
      congr 2
      push_cast
      ring
    · -- a carry into the next binade
      have hbinade : (k * 2 ^ 52 + 2 ^ 53) / 2 ^ 52 = k + 2 := by omega
      have hfraction : (k * 2 ^ 52 + 2 ^ 53) % 2 ^ 52 + 2 ^ 52 = 2 ^ 52 := by omega
      have hexponent : ((k + 2 : Nat) : ℤ) - 1075 = k - 1074 + 1 := by push_cast; ring
      rw [valueOfBits, hbinade, if_neg (Nat.succ_ne_zero (k + 1)), hfraction, hexponent,
        zpow_add₀ two_ne_zero, zpow_one]
      push_cast
      ring

/-- Every magnitude is a place and a significand. -/
theorem exists_place (bits : Nat) :
    ∃ k m, bits = k * 2 ^ 52 + m ∧ m < 2 ^ 53 ∧ (k = 0 ∨ 2 ^ 52 ≤ m) := by
  refine ⟨bits / 2 ^ 52 - 1, bits - (bits / 2 ^ 52 - 1) * 2 ^ 52, ?_, ?_, ?_⟩
  · omega
  · omega
  · omega

/-- **The value grows with the bits.** -/
theorem strictMono_valueOfBits : StrictMono valueOfBits := by
  apply strictMono_nat_of_lt_succ
  intro bits
  obtain ⟨k, m, rfl, hm, hk⟩ := exists_place bits
  have hunit : (0 : ℚ) < 2 ^ (k - 1074 : ℤ) := by positivity
  rw [Nat.add_assoc, valueOfBits_add hm.le hk, valueOfBits_add hm (hk.imp_right Nat.le_succ_of_le)]
  push_cast
  linarith

@[simp] theorem valueOfBits_zero : valueOfBits 0 = 0 := by
  have h := valueOfBits_add (k := 0) (m := 0) (by decide) (Or.inl rfl)
  simpa using h

theorem valueOfBits_nonneg (bits : Nat) : 0 ≤ valueOfBits bits := by
  rw [← valueOfBits_zero]
  exact strictMono_valueOfBits.monotone (Nat.zero_le bits)

/-! ## Neighbours -/

/-- No bits denote a value that is nearer, and if others denote one that is as near, the last bit is
zero. -/
structure NearestBits (q : ℚ) (bits : Nat) : Prop where
  nearest : ∀ b, |valueOfBits bits - q| ≤ |valueOfBits b - q|
  even : ∀ b, b ≠ bits → |valueOfBits b - q| = |valueOfBits bits - q| → bits % 2 = 0

section Neighbours

variable {q : ℚ} {bits : Nat} (hlow : valueOfBits bits ≤ q) (hhigh : q < valueOfBits (bits + 1))
include hlow hhigh

/-- One of the two neighbours of a value is nearer to it than any other bits. -/
theorem exists_neighbour (b : Nat) :
    ∃ n, (n = bits ∨ n = bits + 1) ∧ |valueOfBits n - q| ≤ |valueOfBits b - q| ∧
      (|valueOfBits b - q| = |valueOfBits n - q| → b = n) := by
  rcases le_or_gt b bits with hb | hb
  · have hle := strictMono_valueOfBits.monotone hb
    have hself : |valueOfBits bits - q| = q - valueOfBits bits := by
      rw [abs_sub_comm, abs_of_nonneg (by linarith)]
    have hother : |valueOfBits b - q| = q - valueOfBits b := by
      rw [abs_sub_comm, abs_of_nonneg (by linarith)]
    refine ⟨bits, Or.inl rfl, by linarith, fun heq => strictMono_valueOfBits.injective ?_⟩
    linarith
  · have hle := strictMono_valueOfBits.monotone (Nat.succ_le_of_lt hb)
    have hself : |valueOfBits (bits + 1) - q| = valueOfBits (bits + 1) - q :=
      abs_of_nonneg (by linarith)
    have hother : |valueOfBits b - q| = valueOfBits b - q := abs_of_nonneg (by linarith)
    refine ⟨bits + 1, Or.inr rfl, by linarith, fun heq => strictMono_valueOfBits.injective ?_⟩
    linarith

/-- **The nearer neighbour is nearest**, or the even one if they are as near. -/
theorem nearestBits_of_neighbour {near far : Nat}
    (hpair : ∀ n, n = bits ∨ n = bits + 1 → n = near ∨ n = far)
    (h : |valueOfBits near - q| < |valueOfBits far - q| ∨
      |valueOfBits near - q| = |valueOfBits far - q| ∧ near % 2 = 0) :
    NearestBits q near := by
  constructor
  · intro b
    obtain ⟨n, hn, hle, -⟩ := exists_neighbour hlow hhigh b
    rcases hpair n hn with rfl | rfl
    · exact hle
    · exact (h.elim le_of_lt fun heq => heq.1.le).trans hle
  · intro b hne heq
    obtain ⟨n, hn, hle, honly⟩ := exists_neighbour hlow hhigh b
    rcases hpair n hn with rfl | rfl
    · exact absurd (honly heq) hne
    · rcases h with hlt | ⟨-, heven⟩
      · exact absurd (heq ▸ hlt.trans_le hle) (lt_irrefl _)
      · exact heven

end Neighbours

/-- Two neighbours at distances that are counted in one unit. -/
theorem nearestBits_of_distances {q unit : ℚ} {bits r s : Nat} (hunit : 0 < unit) (hs : 0 < s)
    (hlow : q - valueOfBits bits = r * unit) (hhigh : valueOfBits (bits + 1) - q = s * unit) :
    (r < s ∨ r = s ∧ bits % 2 = 0 → NearestBits q bits) ∧
      (s < r ∨ s = r ∧ (bits + 1) % 2 = 0 → NearestBits q (bits + 1)) := by
  have hr : 0 ≤ r * unit := by positivity
  have hs' : 0 < s * unit := by positivity
  have hbelow : valueOfBits bits ≤ q := by linarith
  have habove : q < valueOfBits (bits + 1) := by linarith
  have hdistance : |valueOfBits bits - q| = r * unit := by
    rw [abs_sub_comm, hlow, abs_of_nonneg hr]
  have hdistance' : |valueOfBits (bits + 1) - q| = s * unit := by rw [hhigh, abs_of_pos hs']
  constructor
  · intro h
    apply nearestBits_of_neighbour hbelow habove fun n hn => hn
    rw [hdistance, hdistance', mul_lt_mul_iff_left₀ hunit, mul_left_inj' hunit.ne']
    exact_mod_cast h
  · intro h
    apply nearestBits_of_neighbour hbelow habove fun n hn => hn.symm
    rw [hdistance, hdistance', mul_lt_mul_iff_left₀ hunit, mul_left_inj' hunit.ne']
    exact_mod_cast h

/-- **Rounding a significand leads to the nearest bits.** -/
theorem nearestBits_roundHalfEven {k num den : Nat} (hden : 0 < den) (hhigh : num < 2 ^ 53 * den)
    (hlow : k = 0 ∨ 2 ^ 52 * den ≤ num) :
    NearestBits (num / den * 2 ^ (k - 1074 : ℤ)) (k * 2 ^ 52 + roundHalfEven num den) := by
  have hm : num / den < 2 ^ 53 := Nat.div_lt_of_lt_mul (by rwa [Nat.mul_comm])
  have hk : k = 0 ∨ 2 ^ 52 ≤ num / den := hlow.imp_right (Nat.le_div_iff_mul_le hden).mpr
  have hmod := Nat.mod_lt num hden
  have hvalue := valueOfBits_add hm.le hk
  have hvalue' := valueOfBits_add (m := num / den + 1) hm (hk.imp_right Nat.le_succ_of_le)
  -- the quotient is the lower neighbour and a number of parts of its last place
  have hden' : (0 : ℚ) < den := by exact_mod_cast hden
  have hunit : (0 : ℚ) < 2 ^ (k - 1074 : ℤ) / den := by positivity
  have hdivision : (num : ℚ) = den * (num / den : Nat) + (num % den : Nat) := by
    exact_mod_cast (Nat.div_add_mod num den).symm
  have hbelow : num / den * 2 ^ (k - 1074 : ℤ) - valueOfBits (k * 2 ^ 52 + num / den) =
      (num % den : Nat) * (2 ^ (k - 1074 : ℤ) / den) := by
    rw [hvalue, hdivision]
    field_simp
    ring
  have habove : valueOfBits (k * 2 ^ 52 + num / den + 1) - num / den * 2 ^ (k - 1074 : ℤ) =
      (den - num % den : Nat) * (2 ^ (k - 1074 : ℤ) / den) := by
    rw [Nat.add_assoc, hvalue', hdivision, Nat.cast_sub hmod.le]
    push_cast
    field_simp
    ring
  obtain ⟨hdown, hup⟩ := nearestBits_of_distances hunit (Nat.sub_pos_of_lt hmod) hbelow habove
  rw [Nat.add_assoc] at hup
  unfold roundHalfEven
  dsimp only
  split_ifs with hless hmore heven
  · exact hdown (by omega)
  · exact hup (by omega)
  · exact hdown (by omega)
  · exact hup (by omega)

/-! ## Quotients -/

theorem twoPowFraction_pos (e : Int) : 0 < (twoPowFraction e).1 ∧ 0 < (twoPowFraction e).2 := by
  cases e with
  | ofNat e => exact ⟨Nat.two_pow_pos e, Nat.one_pos⟩
  | negSucc e => exact ⟨Nat.one_pos, Nat.two_pow_pos (e + 1)⟩

theorem cast_twoPowFraction (e : Int) :
    ((twoPowFraction e).1 : ℚ) = 2 ^ e * (twoPowFraction e).2 := by
  cases e with
  | ofNat e => simp [twoPowFraction, twoPow]
  | negSucc e => simp [twoPowFraction, twoPow, zpow_negSucc]

theorem neg_le_lastPlace (num den : Nat) : -1074 ≤ lastPlace num den := le_max_left _ _

section Quotients

variable {num den : Nat} (hnum : 0 < num) (hden : 0 < den)
include hnum hden

theorem log2_quotient_bounds :
    (2 : ℚ) ^ ((Nat.log2 num : ℤ) - Nat.log2 den - 1) ≤ num / den ∧
      (num : ℚ) / den < 2 ^ ((Nat.log2 num : ℤ) - Nat.log2 den + 1) := by
  have hden' : (0 : ℚ) < den := by exact_mod_cast hden
  have hnum_low : (2 : ℚ) ^ Nat.log2 num ≤ num := by exact_mod_cast Nat.log2_self_le hnum.ne'
  have hnum_high : (num : ℚ) < 2 ^ (Nat.log2 num + 1) := by exact_mod_cast Nat.lt_log2_self
  have hden_low : (2 : ℚ) ^ Nat.log2 den ≤ den := by exact_mod_cast Nat.log2_self_le hden.ne'
  have hden_high : (den : ℚ) < 2 ^ (Nat.log2 den + 1) := by exact_mod_cast Nat.lt_log2_self
  have hsplit (i : ℤ) (j : ℕ) : (2 : ℚ) ^ (i - j) * 2 ^ j = 2 ^ i := by
    rw [← zpow_natCast, ← zpow_add₀ two_ne_zero, sub_add_cancel]
  constructor
  · rw [le_div_iff₀ hden']
    calc (2 : ℚ) ^ ((Nat.log2 num : ℤ) - Nat.log2 den - 1) * den
        ≤ 2 ^ ((Nat.log2 num : ℤ) - (Nat.log2 den + 1 : ℕ)) * 2 ^ (Nat.log2 den + 1) := by
          rw [Nat.cast_add_one, ← sub_sub]
          gcongr
      _ = 2 ^ Nat.log2 num := by rw [hsplit, zpow_natCast]
      _ ≤ num := hnum_low
  · rw [div_lt_iff₀ hden']
    calc (num : ℚ) < 2 ^ (Nat.log2 num + 1) := hnum_high
      _ = 2 ^ ((Nat.log2 num : ℤ) + 1 - Nat.log2 den) * 2 ^ Nat.log2 den := by
          rw [hsplit]
          norm_cast
      _ ≤ 2 ^ ((Nat.log2 num : ℤ) - Nat.log2 den + 1) * den := by
          rw [sub_add_eq_add_sub]
          gcongr

/-- **A quotient has at most fifty-three digits above its last place**, and no fewer, unless the last
place is that of the subnormal numbers. -/
theorem lastPlace_bounds :
    (num : ℚ) / den < 2 ^ (lastPlace num den + 53) ∧
      (lastPlace num den = -1074 ∨ (2 : ℚ) ^ (lastPlace num den + 52) ≤ num / den) := by
  obtain ⟨hlow, hhigh⟩ := log2_quotient_bounds hnum hden
  have hden' : (0 : ℚ) < den := by exact_mod_cast hden
  have hmono {i j : ℤ} (h : i ≤ j) : (2 : ℚ) ^ i ≤ 2 ^ j := zpow_le_zpow_right₀ one_le_two h
  set k : ℤ := (Nat.log2 num : ℤ) - Nat.log2 den with hk
  -- the leading digit of the quotient is that of a power of two or the one below
  have hless : num * (twoPowFraction k).2 < den * (twoPowFraction k).1 ↔
      (num : ℚ) / den < 2 ^ k := by
    have hdown : (0 : ℚ) < (twoPowFraction k).2 := by exact_mod_cast (twoPowFraction_pos k).2
    rw [div_lt_iff₀ hden', ← Nat.cast_lt (α := ℚ), Nat.cast_mul, Nat.cast_mul,
      cast_twoPowFraction k, ← mul_assoc, mul_lt_mul_iff_left₀ hdown, mul_comm]
  obtain ⟨j, hplace, hlow', hhigh'⟩ : ∃ j : ℤ, lastPlace num den = max (-1074) j ∧
      (2 : ℚ) ^ (j + 52) ≤ num / den ∧ (num : ℚ) / den < 2 ^ (j + 53) := by
    refine ⟨if (num : ℚ) / den < 2 ^ k then k - 53 else k - 52, ?_, ?_⟩
    · rw [lastPlace, ← hk]
      simp only [hless]
    · split_ifs with h
      · exact ⟨(hmono (by omega)).trans hlow, h.trans_le (hmono (by omega))⟩
      · exact ⟨(hmono (by omega)).trans (not_lt.mp h), hhigh.trans_le (hmono (by omega))⟩
  rw [hplace]
  constructor
  · exact hhigh'.trans_le (hmono (by omega))
  · rcases le_total j (-1074) with hle | hle
    · exact Or.inl (max_eq_left hle)
    · rw [max_eq_right hle]
      exact Or.inr hlow'

omit hnum in
/-- A quotient in units of `2 ^ e`, which is given as a fraction. -/
theorem nearestBits_units {e : ℤ} {up down : Nat} (he : -1074 ≤ e) (hup : 0 < up) (hdown : 0 < down)
    (hunit : (up : ℚ) = 2 ^ e * down) (hhigh : (num : ℚ) / den < 2 ^ (e + 53))
    (hlow : e = -1074 ∨ (2 : ℚ) ^ (e + 52) ≤ num / den) :
    NearestBits (num / den)
      ((e + 1074).toNat * 2 ^ 52 + roundHalfEven (num * down) (den * up)) := by
  have hden' : (0 : ℚ) < den := by exact_mod_cast hden
  have hdown' : (0 : ℚ) < down := by exact_mod_cast hdown
  have hexponent : (((e + 1074).toNat : ℕ) : ℤ) - 1074 = e := by omega
  have hunits : ((num * down : ℕ) : ℚ) / (den * up : ℕ) * 2 ^ e = num / den := by
    push_cast
    rw [hunit]
    field_simp
  have hhigh' : num * down < 2 ^ 53 * (den * up) := by
    rw [div_lt_iff₀ hden', zpow_add₀ two_ne_zero] at hhigh
    have hcast : (num : ℚ) * down < 2 ^ 53 * (den * up) := by
      calc (num : ℚ) * down < 2 ^ e * 2 ^ (53 : ℤ) * den * down := by gcongr
        _ = 2 ^ (53 : ℕ) * (den * up) := by rw [hunit, ← zpow_natCast]; push_cast; ring
    exact_mod_cast hcast
  have hlow' : (e + 1074).toNat = 0 ∨ 2 ^ 52 * (den * up) ≤ num * down := by
    refine hlow.imp (fun h => by omega) fun h => ?_
    rw [le_div_iff₀ hden', zpow_add₀ two_ne_zero] at h
    have hcast : 2 ^ 52 * ((den : ℚ) * up) ≤ num * down := by
      calc 2 ^ 52 * ((den : ℚ) * up) = 2 ^ e * 2 ^ (52 : ℤ) * den * down := by
            rw [hunit, ← zpow_natCast]; push_cast; ring
        _ ≤ (num : ℚ) * down := by gcongr
    exact_mod_cast hcast
  have hnearest := nearestBits_roundHalfEven (Nat.mul_pos hden hup) hhigh' hlow'
  rw [hexponent, hunits] at hnearest
  exact hnearest

/-- **The format's number of a quotient has the nearest bits.** -/
theorem exists_nearestBits_ofRatio (negative : Bool) :
    ∃ bits, ofRatio negative num den = ofMagnitude negative bits ∧ NearestBits (num / den) bits := by
  obtain ⟨hhigh, hlow⟩ := lastPlace_bounds hnum hden
  obtain ⟨hup, hdown⟩ := twoPowFraction_pos (lastPlace num den)
  refine ⟨_, ?_, nearestBits_units hden (neg_le_lastPlace num den) hup hdown
    (cast_twoPowFraction _) hhigh hlow⟩
  rw [ofRatio, if_neg hnum.ne']
  rfl

end Quotients

/-! ## Overflow -/

/-- Half a unit above the largest finite number: from here on a number is rounded to infinity. -/
def overflow : ℚ := 2 ^ 1024 - 2 ^ 970

theorem cast_two_pow_sub {R : Type} [Ring R] {i j : Nat} (h : i ≤ j) :
    ((2 ^ j - 2 ^ i : Nat) : R) = 2 ^ j - 2 ^ i := by
  rw [Nat.cast_sub (Nat.pow_le_pow_right (by decide) h), Nat.cast_pow, Nat.cast_pow, Nat.cast_ofNat]

theorem overflow_le_natCast {n : Nat} : overflow ≤ (n : ℚ) ↔ 2 ^ 1024 - 2 ^ 970 ≤ n := by
  rw [overflow, ← cast_two_pow_sub (by decide), Nat.cast_le]

/-- The bound lies halfway between the largest finite number and the power of two that the bits of
infinity would denote. -/
theorem overflow_neighbours :
    overflow - valueOfBits (infinityBits - 1) = 2 ^ 970 ∧
      valueOfBits infinityBits - overflow = 2 ^ 970 := by
  have hbits : infinityBits = 2046 * 2 ^ 52 + 2 ^ 52 := rfl
  have hbits' : infinityBits - 1 = 2045 * 2 ^ 52 + (2 ^ 53 - 1) := rfl
  have hplace : ((2046 : ℕ) : ℤ) - 1074 = (972 : ℕ) := rfl
  have hplace' : ((2045 : ℕ) : ℤ) - 1074 = (971 : ℕ) := rfl
  have hlow (k : ℕ) :
      (2 : ℚ) ^ (k + 54) - 2 ^ k - (2 ^ 53 - 1 : ℕ) * 2 ^ (k + 1) = 2 ^ k := by
    rw [pow_add, pow_succ]
    norm_num
    ring
  have hhigh (k : ℕ) : ((2 ^ 52 : ℕ) : ℚ) * 2 ^ (k + 2) - (2 ^ (k + 54) - 2 ^ k) = 2 ^ k := by
    rw [pow_add, pow_add]
    norm_num
    ring
  constructor
  · rw [hbits', valueOfBits_add (by decide) (Or.inr (by decide)), hplace', zpow_natCast]
    exact hlow 970
  · rw [hbits, valueOfBits_add (by decide) (Or.inr le_rfl), hplace, zpow_natCast]
    exact hhigh 970

/-- **Bits that are nearest reach infinity from the bound on.** -/
theorem NearestBits.overflows_iff {q : ℚ} {bits : Nat} (h : NearestBits q bits) :
    infinityBits ≤ bits ↔ overflow ≤ q := by
  obtain ⟨hbelow, habove⟩ := overflow_neighbours
  have hhalf : (0 : ℚ) < 2 ^ 970 := by positivity
  have hodd : (infinityBits - 1) % 2 = 1 := by decide
  generalize (2 : ℚ) ^ 970 = half at *
  constructor
  · intro hle
    by_contra hlt
    have hvalue := strictMono_valueOfBits.monotone hle
    have hnear := h.nearest (infinityBits - 1)
    rw [abs_of_pos (by linarith)] at hnear
    rcases abs_cases (valueOfBits (infinityBits - 1) - q) with ⟨habs, -⟩ | ⟨habs, -⟩
    · linarith
    · linarith
  · intro hle
    by_contra hlt
    have hvalue := strictMono_valueOfBits.monotone (show bits ≤ infinityBits - 1 by omega)
    have hnear := h.nearest infinityBits
    rw [abs_of_neg (show valueOfBits bits - q < 0 by linarith)] at hnear
    -- the two neighbours of the bound can only be as near as each other
    have htie : valueOfBits bits = valueOfBits (infinityBits - 1) ∧
        |valueOfBits infinityBits - q| = -(valueOfBits bits - q) := by
      rcases abs_cases (valueOfBits infinityBits - q) with ⟨habs, -⟩ | ⟨habs, -⟩
      · constructor
        · linarith
        · linarith
      · linarith
    have hbits := strictMono_valueOfBits.injective htie.1
    have heven := h.even infinityBits (by omega)
      (by rw [htie.2, abs_of_neg (by linarith)])
    omega

/-! ## Correct rounding -/

/-- The number is the given size with the given sign, correctly rounded. -/
structure IsRounded (negative : Bool) (size : ℚ) (x : Binary64) : Prop where
  /-- The sign is kept, even that of a size that is rounded to zero. -/
  negative_eq : x.negative = negative
  infinite : overflow ≤ size → x = infinity negative
  finite : size < overflow → x.isFinite = true
  /-- No finite number is nearer to the size. -/
  nearest : size < overflow → ∀ y : Binary64, y.isFinite = true →
    |x.toRat - withSign negative size| ≤ |y.toRat - withSign negative size|
  /-- Of two numbers that are as near it is the even one. -/
  even : size < overflow → ∀ y : Binary64, y.isFinite = true → y.toRat ≠ x.toRat →
    |y.toRat - withSign negative size| = |x.toRat - withSign negative size| →
      x.significand % 2 = 0

theorem significand_mod_two (x : Binary64) : x.significand % 2 = x.magnitude % 2 := by
  have hpow : twoPow 52 = 2 ^ 52 := rfl
  rw [significand, hpow]
  split_ifs <;> omega

/-- A number of the other sign is no nearer to a size than zero is. -/
theorem exists_bits_of_sign (y : Binary64) (negative : Bool) {q : ℚ} (hq : 0 ≤ q) :
    ∃ b, |valueOfBits b - q| ≤ |y.toRat - withSign negative q| ∧
      (|y.toRat - withSign negative q| = |valueOfBits b - q| →
        y.toRat = withSign negative (valueOfBits b)) := by
  rw [toRat_eq]
  by_cases hsign : y.negative = negative
  · refine ⟨y.magnitude, ?_, fun _ => by rw [hsign]⟩
    rw [hsign, abs_withSign_sub_withSign]
  · have hvalue := valueOfBits_nonneg y.magnitude
    have hdistance : |withSign y.negative (valueOfBits y.magnitude) - withSign negative q| =
        valueOfBits y.magnitude + q := by
      cases hy : y.negative with
      | false =>
        obtain rfl : true = negative := by simpa [hy] using hsign
        show |valueOfBits y.magnitude - -q| = _
        rw [sub_neg_eq_add, abs_of_nonneg (by linarith)]
      | true =>
        obtain rfl : false = negative := by simpa [hy] using hsign
        show |-valueOfBits y.magnitude - q| = _
        rw [← neg_add', abs_neg, abs_of_nonneg (by linarith)]
    refine ⟨0, ?_, ?_⟩
    · rw [hdistance, valueOfBits_zero, zero_sub, abs_neg, abs_of_nonneg hq]
      linarith
    · rw [hdistance, valueOfBits_zero, zero_sub, abs_neg, abs_of_nonneg hq]
      intro heq
      have hzero : valueOfBits y.magnitude = 0 := by linarith
      rw [hzero]
      simp [withSign]

theorem toRat_ofMagnitude (negative : Bool) {bits : Nat} (h : bits < infinityBits) :
    (ofMagnitude negative bits).isFinite = true ∧
      (ofMagnitude negative bits).toRat = withSign negative (valueOfBits bits) := by
  have hmagnitude : (ofMagnitude negative bits).magnitude = bits := min_eq_left h.le
  constructor
  · rw [isFinite, hmagnitude, decide_eq_true_eq]
    exact h
  · rw [toRat_eq, hmagnitude]
    rfl

/-- **Nearest bits make the correctly rounded number.** -/
theorem isRounded_ofMagnitude (negative : Bool) {q : ℚ} (hq : 0 ≤ q) {bits : Nat}
    (h : NearestBits q bits) : IsRounded negative q (ofMagnitude negative bits) := by
  have hfits (hlt : q < overflow) : bits < infinityBits :=
    not_le.mp fun hle => not_le.mpr hlt (h.overflows_iff.mp hle)
  have hvalue (hlt : q < overflow) :
      (ofMagnitude negative bits).toRat = withSign negative (valueOfBits bits) :=
    (toRat_ofMagnitude negative (hfits hlt)).2
  constructor
  case negative_eq => rfl
  case infinite =>
    intro hle
    have hbits := h.overflows_iff.mpr hle
    simp only [ofMagnitude, infinity, min_eq_right hbits, min_self]
  case finite =>
    intro hlt
    exact (toRat_ofMagnitude negative (hfits hlt)).1
  case nearest =>
    intro hlt y hy
    obtain ⟨b, hle, -⟩ := exists_bits_of_sign y negative hq
    rw [hvalue hlt, abs_withSign_sub_withSign]
    exact (h.nearest b).trans hle
  case even =>
    intro hlt y hy hne htie
    obtain ⟨b, hle, honly⟩ := exists_bits_of_sign y negative hq
    rw [hvalue hlt, abs_withSign_sub_withSign] at htie
    have hb : |valueOfBits b - q| = |valueOfBits bits - q| :=
      le_antisymm (htie ▸ hle) (h.nearest b)
    have hother : b ≠ bits := by
      rintro rfl
      exact hne (by rw [hvalue hlt, honly htie])
    have hmagnitude : (ofMagnitude negative bits).magnitude = bits := min_eq_left (hfits hlt).le
    rw [significand_mod_two, hmagnitude]
    exact h.even b hother hb

theorem abs_sub_lt_of_between {a b c q : ℚ} (htie : |a - q| = |b - q|) (hac : a < c) (hcb : c < b) :
    |c - q| < |a - q| := by
  have hhalf : a - q = -(b - q) := by
    rcases abs_eq_abs.mp htie with h | h
    · linarith
    · exact h
  rw [abs_of_neg (show a - q < 0 by linarith), abs_lt]
  constructor
  · linarith
  · linarith

/-- **A size is rounded to one number only.** Between two even numbers there is another, so they are
not both nearest. -/
theorem IsRounded.unique {negative : Bool} {q : ℚ} {x y : Binary64} (hx : IsRounded negative q x)
    (hy : IsRounded negative q y) : x = y := by
  rcases le_or_gt overflow q with hle | hlt
  · rw [hx.infinite hle, hy.infinite hle]
  wlog hless : x.magnitude < y.magnitude generalizing x y
  · rcases (not_lt.mp hless).lt_or_eq with hmore | hsame
    · exact (this hy hx hmore).symm
    · obtain ⟨negative', magnitude, hx_lt⟩ := x
      obtain ⟨negative'', magnitude', hy_lt⟩ := y
      obtain rfl : negative' = negative := hx.negative_eq
      obtain rfl : negative'' = negative' := hy.negative_eq
      obtain rfl : magnitude' = magnitude := hsame
      rfl
  exfalso
  have hfinite : y.magnitude < infinityBits := by simpa [isFinite] using hy.finite hlt
  have hx_value : x.toRat = withSign negative (valueOfBits x.magnitude) := by
    rw [toRat_eq, hx.negative_eq]
  have hy_value : y.toRat = withSign negative (valueOfBits y.magnitude) := by
    rw [toRat_eq, hy.negative_eq]
  have hgrow := strictMono_valueOfBits hless
  have hne : y.toRat ≠ x.toRat := by
    intro heq
    have hzero := abs_withSign_sub_withSign negative (valueOfBits y.magnitude)
      (valueOfBits x.magnitude)
    rw [← hx_value, ← hy_value, heq, sub_self, abs_zero, eq_comm, abs_eq_zero] at hzero
    linarith
  have htie := le_antisymm (hx.nearest hlt y (hy.finite hlt)) (hy.nearest hlt x (hx.finite hlt))
  have hx_even := hx.even hlt y (hy.finite hlt) hne htie.symm
  have hy_even := hy.even hlt x (hx.finite hlt) hne.symm htie
  rw [significand_mod_two] at hx_even hy_even
  have hgap : x.magnitude + 1 < y.magnitude := by omega
  obtain ⟨hz, hz_value⟩ := toRat_ofMagnitude negative (hgap.trans hfinite)
  have hbetween := hx.nearest hlt _ hz
  rw [hx_value, hz_value, abs_withSign_sub_withSign, abs_withSign_sub_withSign] at hbetween
  rw [hx_value, hy_value, abs_withSign_sub_withSign, abs_withSign_sub_withSign] at htie
  have hnearer := abs_sub_lt_of_between htie (strictMono_valueOfBits (Nat.lt_succ_self x.magnitude))
    (strictMono_valueOfBits hgap)
  exact absurd hbetween (not_le.mpr hnearer)

/-! ## Decimal numbers -/

theorem isRounded_infinity (negative : Bool) {q : ℚ} (h : overflow ≤ q) :
    IsRounded negative q (infinity negative) :=
  { negative_eq := rfl
    infinite := fun _ => rfl
    finite := fun hlt => absurd h (not_le.mpr hlt)
    nearest := fun hlt => absurd h (not_le.mpr hlt)
    even := fun hlt => absurd h (not_le.mpr hlt) }

/-- Half of the least positive number and what is below it are rounded to zero. -/
theorem nearestBits_zero {q : ℚ} (hq : 0 ≤ q) (h : q ≤ 2 ^ (-1075 : ℤ)) : NearestBits q 0 := by
  have hone : valueOfBits 1 = 2 * 2 ^ (-1075 : ℤ) := by
    rw [← zpow_one_add₀ two_ne_zero]
    exact (valueOfBits_add (k := 0) (m := 1) (by decide) (Or.inl rfl)).trans (by norm_num)
  constructor
  · intro b
    rw [valueOfBits_zero, zero_sub, abs_neg, abs_of_nonneg hq]
    rcases Nat.eq_zero_or_pos b with rfl | hb
    · rw [valueOfBits_zero, zero_sub, abs_neg, abs_of_nonneg hq]
    · have hle := strictMono_valueOfBits.monotone hb
      refine le_trans ?_ (le_abs_self _)
      linarith
  · exact fun _ _ _ => rfl

theorem isRounded_ofRatio (negative : Bool) {num den : Nat} (hnum : 0 < num) (hden : 0 < den) :
    IsRounded negative (num / den) (ofRatio negative num den) := by
  obtain ⟨bits, hbits, hnearest⟩ := exists_nearestBits_ofRatio hnum hden negative
  rw [hbits]
  exact isRounded_ofMagnitude negative (by positivity) hnearest

/-- A number in decimal digits is smaller than the power of ten with an exponent of that many binary
digits more. -/
theorem natCast_mul_zpow_lt {n : Nat} (exponent : ℤ) :
    (n : ℚ) * 10 ^ exponent < 10 ^ (exponent + Nat.log2 n + 1) := by
  have hn : n < 10 ^ (Nat.log2 n + 1) :=
    Nat.lt_log2_self.trans_le (Nat.pow_le_pow_left (by decide) _)
  have hpow : (0 : ℚ) < 10 ^ exponent := by positivity
  calc (n : ℚ) * 10 ^ exponent < (10 : ℚ) ^ (Nat.log2 n + 1) * 10 ^ exponent := by
        rw [mul_lt_mul_iff_left₀ hpow]
        exact_mod_cast hn
    _ = 10 ^ (exponent + Nat.log2 n + 1) := by
        rw [← zpow_natCast, ← zpow_add₀ (by norm_num)]
        congr 1
        push_cast
        ring

theorem overflow_le_ten_pow : overflow ≤ 10 ^ 400 := by
  have hle : 2 ^ 1024 ≤ 10 ^ 400 := by decide +kernel
  have hpos : (0 : ℚ) < 2 ^ 970 := by positivity
  have hcast : (2 : ℚ) ^ 1024 ≤ 10 ^ 400 := by exact_mod_cast hle
  exact (sub_le_self _ hpos.le).trans hcast

theorem ten_zpow_le : (10 : ℚ) ^ (-400 : ℤ) ≤ 2 ^ (-1075 : ℤ) := by
  have hle : 2 ^ 1075 ≤ 10 ^ 400 := by decide +kernel
  have hcast : (2 : ℚ) ^ 1075 ≤ 10 ^ 400 := by exact_mod_cast hle
  have hpos : (0 : ℚ) < 2 ^ 1075 := by positivity
  calc (10 : ℚ) ^ (-400 : ℤ) = (10 ^ 400)⁻¹ := by rw [zpow_neg]; rfl
    _ ≤ (2 ^ 1075)⁻¹ := inv_anti₀ hpos hcast
    _ = 2 ^ (-1075 : ℤ) := by rw [zpow_neg]; rfl

/-- **A decimal number is rounded correctly**, however many digits it has and however far outside the
range of the format it is. -/
theorem isRounded_ofDecimal (negative : Bool) (n : Nat) (exponent : ℤ) :
    IsRounded negative (n * 10 ^ exponent) (ofDecimal negative n exponent) := by
  rcases Nat.eq_zero_or_pos n with rfl | hn
  · rw [Nat.cast_zero, zero_mul]
    exact isRounded_ofMagnitude negative le_rfl (nearestBits_zero le_rfl (by positivity))
  have hten : (1 : ℚ) ≤ 10 := by norm_num
  unfold ofDecimal
  rw [if_neg hn.ne']
  split_ifs with hlarge hsmall
  · apply isRounded_infinity
    have hn' : (1 : ℚ) ≤ n := by exact_mod_cast hn
    calc overflow ≤ 10 ^ 400 := overflow_le_ten_pow
      _ = 10 ^ (400 : ℤ) := (zpow_natCast _ 400).symm
      _ ≤ 10 ^ exponent := zpow_le_zpow_right₀ hten hlarge.le
      _ ≤ n * 10 ^ exponent := le_mul_of_one_le_left (by positivity) hn'
  · apply isRounded_ofMagnitude negative (by positivity)
    apply nearestBits_zero (by positivity)
    calc (n : ℚ) * 10 ^ exponent
        ≤ 10 ^ (exponent + Nat.log2 n + 1) := (natCast_mul_zpow_lt exponent).le
      _ ≤ 10 ^ (-400 : ℤ) := zpow_le_zpow_right₀ hten hsmall.le
      _ ≤ 2 ^ (-1075 : ℤ) := ten_zpow_le
  · cases exponent with
    | ofNat e =>
      have h := isRounded_ofRatio negative (Nat.mul_pos hn (Nat.pow_pos (by decide) : 0 < 10 ^ e))
        Nat.one_pos
      have hsize : ((n * 10 ^ e : ℕ) : ℚ) / (1 : ℕ) = n * 10 ^ Int.ofNat e := by simp
      rw [hsize] at h
      exact h
    | negSucc e =>
      have h := isRounded_ofRatio negative hn (Nat.pow_pos (by decide) : 0 < 10 ^ (e + 1))
      have hsize : (n : ℚ) / (10 ^ (e + 1) : ℕ) = n * 10 ^ Int.negSucc e := by
        rw [zpow_negSucc, div_eq_mul_inv]
        push_cast
        rfl
      rw [hsize] at h
      exact h

end Binary64

end Widgetry
