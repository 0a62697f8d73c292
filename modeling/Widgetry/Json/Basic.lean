import Widgetry.Text.Basic
import Widgetry.Number.Basic

/-!
# JSON values

The values that descriptors are written to and read from. Integers and binary64 numbers are kept
apart, and the members of an object keep their order.
-/

namespace Widgetry

/-- A JSON value. -/
inductive Json where
  | null
  | bool (b : Bool)
  | int (n : Int)
  | float (x : Binary64)
  | str (t : Text)
  | arr (items : List Json)
  | obj (members : List (Text × Json))
deriving Repr

namespace Json

/-- A list of texts. -/
def ofTexts (ts : List Text) : Json := arr (ts.map str)

/-- A number; its two kinds stay apart. -/
def ofNumber : Number → Json
  | .int n => int n
  | .float x => float x

/-! ## Numbers that cannot be written -/

mutual

/-- The value with `null` for every number that is not finite, which JSON has no notation for. -/
def writable : Json → Json
  | .float x => if x.isFinite then .float x else .null
  | .arr items => .arr (writableItems items)
  | .obj members => .obj (writableMembers members)
  | v => v

def writableItems : List Json → List Json
  | [] => []
  | v :: rest => writable v :: writableItems rest

def writableMembers : List (Text × Json) → List (Text × Json)
  | [] => []
  | (key, v) :: rest => (key, writable v) :: writableMembers rest

end

/-! ## Nesting -/

mutual

/-- How many values lie inside each other at the deepest place, the value itself included. -/
def height : Json → Nat
  | .arr items => itemsHeight items + 1
  | .obj members => membersHeight members + 1
  | _ => 1

/-- The height of the highest of the items; zero if there is none. -/
def itemsHeight : List Json → Nat
  | [] => 0
  | v :: rest => Nat.max (height v) (itemsHeight rest)

/-- The height of the highest value of a member; zero if there is none. -/
def membersHeight : List (Text × Json) → Nat
  | [] => 0
  | (_, v) :: rest => Nat.max (height v) (membersHeight rest)

end

end Json

end Widgetry
