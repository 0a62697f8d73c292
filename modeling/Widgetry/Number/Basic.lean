import Widgetry.Number.Binary64

/-!
# Numbers of a widget

A number is an integer of any size or a binary64 number. Whole numbers are kept as integers, so
that they are written without a fraction.
-/

namespace Widgetry

/-- An integer, or a binary64 number. -/
inductive Number where
  | int (n : Int)
  | float (x : Binary64)
deriving Repr, DecidableEq

namespace Number

/-- A binary64 number, as an integer where it is whole. -/
def ofBinary64 (x : Binary64) : Number :=
  match x.toInt? with
  | some n => int n
  | none => float x

end Number

end Widgetry
