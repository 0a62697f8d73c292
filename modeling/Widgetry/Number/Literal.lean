import Widgetry.Text.Digit
import Widgetry.Number.Basic

/-!
# Numeric literals

A number is read from the front of a text, after white space, and what follows it is not looked
at: `12px` is twelve. A decimal literal is a sign, digits with at most one point among them, and an
exponent; every part but the digits may be missing, and an exponent without digits is no part of
the literal. An integer literal is a sign and digits.

The value of a decimal literal is the nearest binary64 number. The value of an integer literal is
exact, and literals of more than `maxIntegerDigits` digits are refused.
-/

namespace Widgetry

/-! ## Decimal literals -/

/-- A decimal literal: its sign, the digits before and after the point, and its exponent. -/
structure DecimalLiteral where
  negative : Bool
  whole : List Nat
  fraction : List Nat
  exponent : Int
deriving Repr, DecidableEq

namespace DecimalLiteral

/-- A sign at the front (is it a minus?), and the text after it. -/
def takeSign : Text → Bool × Text
  | '-' :: rest => (true, rest)
  | '+' :: rest => (false, rest)
  | t => (false, t)

/-- The digits after a point at the front, and the text after them. Without a point there are
none. -/
def takeFraction : Text → List Nat × Text
  | '.' :: rest => Text.takeDigits rest
  | t => ([], t)

/-- The exponent at the front; zero if the letter is not followed by digits. -/
def exponentAt : Text → Int
  | c :: rest =>
    if c == 'e' || c == 'E' then
      let (negative, rest) := takeSign rest
      let size := Text.digitsValue (Text.takeDigits rest).1
      if negative then -size else size
    else 0
  | [] => 0

/-- The decimal literal at the front of a text, after white space. -/
def read? (t : Text) : Option DecimalLiteral :=
  let (negative, t) := takeSign (Text.trimStart t)
  let (whole, t) := Text.takeDigits t
  let (fraction, t) := takeFraction t
  if whole = [] ∧ fraction = [] then none
  else some ⟨negative, whole, fraction, exponentAt t⟩

/-- The nearest binary64 number. -/
def value (d : DecimalLiteral) : Binary64 :=
  .ofDecimal d.negative (Text.digitsValue (d.whole ++ d.fraction)) (d.exponent - d.fraction.length)

end DecimalLiteral

/-- The value of the decimal literal at the front of a text. -/
def Binary64.read? (t : Text) : Option Binary64 :=
  (DecimalLiteral.read? t).map DecimalLiteral.value

/-- The value of the decimal literal at the front of a text, as an integer where it is whole. -/
def Number.read? (t : Text) : Option Number :=
  (Binary64.read? t).map Number.ofBinary64

/-! ## Integer literals -/

/-- The longest integer literal that is read, in digits; the sign is not counted. -/
def maxIntegerDigits : Nat := 4300

/-- An integer literal of more than `maxIntegerDigits` digits. -/
structure OversizedInteger where
  digits : Nat
deriving Repr, DecidableEq

def OversizedInteger.message (e : OversizedInteger) : Text :=
  "Exceeds the limit (".toList ++ Text.ofNat maxIntegerDigits ++
    " digits) for integer string conversion: value has ".toList ++ Text.ofNat e.digits ++
    " digits; use sys.set_int_max_str_digits() to increase the limit".toList

/-- The value of the integer literal at the front of a text, after white space, if there is one. -/
def readInteger (t : Text) : Except OversizedInteger (Option Int) :=
  let (negative, t) := DecimalLiteral.takeSign (Text.trimStart t)
  let digits := (Text.takeDigits t).1
  if digits = [] then .ok none
  else if maxIntegerDigits < digits.length then .error ⟨digits.length⟩
  else
    let size := Text.digitsValue digits
    .ok (some (if negative then -size else size))

end Widgetry
