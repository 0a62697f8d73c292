/-!
# Binary floating point

A number of the IEEE 754 format binary64, held as its sign and the other sixty-three bits. Those
bits, read as a natural number, grow with the magnitude they denote: the subnormal numbers, then
the binades one after the other, then infinity. Rounding to the format is thereby one rounding of
a quotient of natural numbers, and a carry into the next binade needs no case of its own.
-/

namespace Widgetry

/-- A power of two. -/
def twoPow (n : Nat) : Nat := Nat.pow 2 n

/-- A power of ten. -/
def tenPow (n : Nat) : Nat := Nat.pow 10 n

/-- A binary64 number: a sign and sixty-three bits of magnitude. -/
structure Binary64 where
  negative : Bool
  /-- The eleven bits of the exponent followed by the fifty-two of the fraction. -/
  magnitude : Nat
  magnitude_lt : magnitude < twoPow 63
deriving Repr, DecidableEq

namespace Binary64

/-! ## The format -/

/-- The magnitude bits of infinity. What lies above them is not a number. -/
def infinityBits : Nat := 2047 * twoPow 52

/-- The number with the given sign and magnitude bits, infinity if the bits lie beyond it. -/
def ofMagnitude (negative : Bool) (bits : Nat) : Binary64 where
  negative := negative
  magnitude := min bits infinityBits
  magnitude_lt := Nat.lt_of_le_of_lt (Nat.min_le_right _ _) (by decide)

/-- Infinity with a sign. -/
def infinity (negative : Bool) : Binary64 := ofMagnitude negative infinityBits

/-- The value that is not a number. -/
def nan : Binary64 := ⟨false, infinityBits + twoPow 51, by decide⟩

/-- Is the value a number other than the infinities? -/
def isFinite (x : Binary64) : Bool := x.magnitude < infinityBits

/-- The binade: 0 for the subnormal numbers, 2047 for infinity. -/
def binade (x : Binary64) : Nat := x.magnitude / twoPow 52

/-- The significand as an integer; normal numbers have the hidden bit 2⁵². -/
def significand (x : Binary64) : Nat :=
  if x.binade = 0 then x.magnitude else x.magnitude % twoPow 52 + twoPow 52

/-- The exponent of the last place: a finite `x` is `significand · 2 ^ scale`, up to its sign. -/
def scale (x : Binary64) : Int := max x.binade 1 - 1075

/-- All sixty-four bits, the sign first. -/
def bits (x : Binary64) : Nat := (if x.negative then twoPow 63 else 0) + x.magnitude

/-- The integer that a whole number is; nothing for fractions and infinities. -/
def toInt? (x : Binary64) : Option Int :=
  let signed (n : Nat) : Int := if x.negative then -n else n
  if !x.isFinite then none
  else match x.scale with
    | .ofNat e => some (signed (x.significand * twoPow e))
    | .negSucc e =>
      if x.significand % twoPow (e + 1) = 0 then some (signed (x.significand / twoPow (e + 1))) else none

/-! ## Rounding -/

/-- The quotient to the nearest integer, a half to the even one. -/
def roundHalfEven (num den : Nat) : Nat :=
  let q := num / den
  let twice := 2 * (num % den)
  if twice < den then q
  else if den < twice then q + 1
  else if q % 2 = 0 then q else q + 1

/-- A power of two with an integer exponent, as a fraction. -/
def twoPowFraction : Int → Nat × Nat
  | .ofNat e => (twoPow e, 1)
  | .negSucc e => (1, twoPow (e + 1))

/-- The exponent of the last place that the format has at the positive quotient `num / den`:
fifty-two below the leading binary digit, and never below that of the subnormal numbers. -/
def lastPlace (num den : Nat) : Int :=
  let k : Int := (Nat.log2 num : Int) - Nat.log2 den
  let (up, down) := twoPowFraction k
  max (-1074) (if num * down < den * up then k - 53 else k - 52)

/-- The binary64 number nearest to the quotient `num / den`, a half to the even one; infinity from
half a unit above the largest finite number on. -/
def ofRatio (negative : Bool) (num den : Nat) : Binary64 :=
  if num = 0 then ofMagnitude negative 0
  else
    let e := lastPlace num den
    let (up, down) := twoPowFraction e
    ofMagnitude negative ((e + 1074).toNat * twoPow 52 + roundHalfEven (num * down) (den * up))

/-- The binary64 number nearest to `n · 10 ^ exponent`. Exponents that put the number far outside
the range of the format are settled without computing the power. -/
def ofDecimal (negative : Bool) (n : Nat) (exponent : Int) : Binary64 :=
  if n = 0 then ofMagnitude negative 0
  else if 400 < exponent then infinity negative
  else if exponent + Nat.log2 n + 1 < -400 then ofMagnitude negative 0
  else match exponent with
    | .ofNat e => ofRatio negative (n * tenPow e) 1
    | .negSucc e => ofRatio negative n (tenPow (e + 1))

end Binary64

end Widgetry
