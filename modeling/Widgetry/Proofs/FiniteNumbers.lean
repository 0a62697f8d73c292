import Widgetry.Json.Basic
import Mathlib.Data.List.Basic

/-!
# Numbers that can be written

JSON has no notation for the infinities and for what is not a number, and `null` is written in their
place. A value without such numbers is written as it is (`Json.writable_eq_self`), and only such a
value is, because no such number is left in what is written (`Json.allFinite_writable`).
-/

namespace Widgetry

mutual

/-- The binary64 numbers of a value. -/
def Json.floats : Json → List Binary64
  | .float x => [x]
  | .arr items => Json.itemsFloats items
  | .obj members => Json.membersFloats members
  | _ => []

def Json.itemsFloats : List Json → List Binary64
  | [] => []
  | v :: rest => v.floats ++ Json.itemsFloats rest

def Json.membersFloats : List (Text × Json) → List Binary64
  | [] => []
  | (_, v) :: rest => v.floats ++ Json.membersFloats rest

end

/-- All of the numbers are finite. -/
def AllFinite (xs : List Binary64) : Prop := ∀ x ∈ xs, x.isFinite = true

instance (xs : List Binary64) : Decidable (AllFinite xs) :=
  List.decidableBAll (fun x : Binary64 => x.isFinite = true) xs

theorem allFinite_append_iff {xs ys : List Binary64} :
    AllFinite (xs ++ ys) ↔ AllFinite xs ∧ AllFinite ys := List.forall_mem_append

mutual

/-- A value whose numbers are finite is written as it is. -/
theorem Json.writable_eq_self : ∀ v : Json, AllFinite v.floats → v.writable = v
  | .null, _ => rfl
  | .bool _, _ => rfl
  | .int _, _ => rfl
  | .float x, h => by
      have hx := h x List.mem_cons_self
      rw [Json.writable, if_pos hx]
  | .str _, _ => rfl
  | .arr items, h => by
      rw [Json.writable, Json.writableItems_eq_self items h]
  | .obj members, h => by
      rw [Json.writable, Json.writableMembers_eq_self members h]

theorem Json.writableItems_eq_self :
    ∀ items : List Json, AllFinite (Json.itemsFloats items) → Json.writableItems items = items
  | [], _ => rfl
  | v :: rest, h => by
      obtain ⟨hv, hrest⟩ := allFinite_append_iff.mp h
      rw [Json.writableItems, Json.writable_eq_self v hv, Json.writableItems_eq_self rest hrest]

theorem Json.writableMembers_eq_self :
    ∀ members : List (Text × Json), AllFinite (Json.membersFloats members) →
      Json.writableMembers members = members
  | [], _ => rfl
  | (key, v) :: rest, h => by
      obtain ⟨hv, hrest⟩ := allFinite_append_iff.mp h
      rw [Json.writableMembers, Json.writable_eq_self v hv, Json.writableMembers_eq_self rest hrest]

end

mutual

/-- No number that JSON has no notation for is written. -/
theorem Json.allFinite_writable : ∀ v : Json, AllFinite v.writable.floats
  | .null | .bool _ | .int _ | .str _ => fun _ h => absurd h List.not_mem_nil
  | .float x => by
      rw [Json.writable]
      split_ifs with hx
      · intro y hy
        obtain rfl := List.mem_singleton.mp hy
        exact hx
      · exact fun _ h => absurd h List.not_mem_nil
  | .arr items => Json.allFinite_writableItems items
  | .obj members => Json.allFinite_writableMembers members

theorem Json.allFinite_writableItems :
    ∀ items : List Json, AllFinite (Json.itemsFloats (Json.writableItems items))
  | [] => fun _ h => absurd h List.not_mem_nil
  | v :: rest =>
      allFinite_append_iff.mpr ⟨Json.allFinite_writable v, Json.allFinite_writableItems rest⟩

theorem Json.allFinite_writableMembers :
    ∀ members : List (Text × Json), AllFinite (Json.membersFloats (Json.writableMembers members))
  | [] => fun _ h => absurd h List.not_mem_nil
  | (_, v) :: rest =>
      allFinite_append_iff.mpr ⟨Json.allFinite_writable v, Json.allFinite_writableMembers rest⟩

end

/-- **What is written is the value itself** exactly if its numbers are finite. -/
theorem Json.writable_eq_self_iff {v : Json} : v.writable = v ↔ AllFinite v.floats :=
  ⟨fun h => h ▸ v.allFinite_writable, v.writable_eq_self⟩

end Widgetry
