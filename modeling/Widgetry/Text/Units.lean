import Widgetry.Text.Basic

/-!
# Code units

Characters above U+FFFF may arrive as two code units, a pair of surrogates. Joining looks at the
units from the last to the first, so that the second half of a pair is known when its first half
comes. Half a pair that is alone stays what it is, a code point that is no character. So a row of
code points need not be a text.
-/

namespace Widgetry.Text

/-- Is the unit the first half of a pair? -/
def isHighSurrogate (u : Nat) : Bool := 0xD800 ≤ u && u < 0xDC00

/-- Is the unit the second half of a pair? -/
def isLowSurrogate (u : Nat) : Bool := 0xDC00 ≤ u && u < 0xE000

/-- The code point of a pair. -/
def pairPoint (high low : Nat) : Nat := 0x10000 + 0x400 * (high - 0xD800) + (low - 0xDC00)

/-- Code points that grow at their front, with the second half of a pair that looks for its first
half. -/
structure Joined where
  low : Option Nat
  points : List Nat

namespace Joined

/-- A half that is alone stays one. -/
def close (j : Joined) : List Nat := j.low.toList ++ j.points

/-- Puts a unit to the front. -/
def push (j : Joined) (u : Nat) : Joined :=
  if isLowSurrogate u then ⟨some u, j.close⟩
  else if isHighSurrogate u then
    match j.low with
    | some low => ⟨none, pairPoint u low :: j.points⟩
    | none => ⟨none, u :: j.points⟩
  else ⟨none, u :: j.close⟩

end Joined

/-- The code points of code units that come latest first. -/
def joinReversed (units : List Nat) : List Nat := (units.foldl Joined.push ⟨none, []⟩).close

/-! ## Code points -/

/-- The character of a code point; a surrogate has none. -/
def charOf? (point : Nat) : Option Char :=
  if h : point.isValidChar then some (Char.ofNatAux point h) else none

/-- The code points of a text. -/
def codePoints (t : Text) : List Nat := t.map Char.toNat

/-- The text of code points, if each of them is that of a character. -/
def ofCodePoints? (points : List Nat) : Option Text := points.mapM charOf?

end Widgetry.Text
