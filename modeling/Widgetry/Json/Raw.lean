import Widgetry.Json.Basic
import Widgetry.Text.Units

/-!
# Decoded JSON

What a JSON text denotes. It is a JSON value but for its strings, which are rows of code points: an
escape may name half of a surrogate pair, and then the string is no text. Such a string can be
decoded but not written again, and so can a number that is not finite.
-/

namespace Widgetry

/-- A JSON value whose strings need not be texts. -/
inductive RawJson where
  | null
  | bool (b : Bool)
  | int (n : Int)
  | float (x : Binary64)
  | str (points : List Nat)
  | arr (items : List RawJson)
  | obj (members : List (List Nat × RawJson))
deriving Repr

namespace RawJson

mutual

/-- The JSON value, if all strings are texts. -/
def toJson? : RawJson → Option Json
  | .null => some .null
  | .bool b => some (.bool b)
  | .int n => some (.int n)
  | .float x => some (.float x)
  | .str points => (Text.ofCodePoints? points).map .str
  | .arr items => (itemsToJson? items).map .arr
  | .obj members => (membersToJson? members).map .obj

def itemsToJson? : List RawJson → Option (List Json)
  | [] => some []
  | v :: rest => do return (← toJson? v) :: (← itemsToJson? rest)

def membersToJson? : List (List Nat × RawJson) → Option (List (Text × Json))
  | [] => some []
  | (key, v) :: rest => do
    return (← Text.ofCodePoints? key, ← toJson? v) :: (← membersToJson? rest)

end

mutual

/-- Can the value be written? All strings must be texts and all numbers finite. -/
def isWritable : RawJson → Bool
  | .float x => x.isFinite
  | .str points => (Text.ofCodePoints? points).isSome
  | .arr items => itemsWritable items
  | .obj members => membersWritable members
  | _ => true

def itemsWritable : List RawJson → Bool
  | [] => true
  | v :: rest => isWritable v && itemsWritable rest

def membersWritable : List (List Nat × RawJson) → Bool
  | [] => true
  | (key, v) :: rest =>
    (Text.ofCodePoints? key).isSome && isWritable v && membersWritable rest

end

end RawJson

end Widgetry
