import Widgetry.Widget.Descriptor
import Widgetry.Widget.Schema

/-!
# Members that have been written

An object that has been written holds the parts that are present, each under the key of its field.
If no field is read under the key of another one (`Separate`), every field finds its own part in the
object and nothing if the part is absent (`finds_members`). So a part is read back by the reader of
its field if its value is read back, and the absent parts, for which nothing is written, are those
for which the reader of the field puts nothing in.
-/

namespace Widgetry

/-! ## Values -/

/-- Reading gives this value, from whatever number of members. -/
def Checked.Gives {α : Type} (c : Checked α) (a : α) : Prop := c.value? = some a

namespace Checked.Gives

variable {α β : Type} {a : α} {c : Checked α}

theorem map (h : c.Gives a) {f : α → β} : (f <$> c).Gives (f a) := by
  cases c with
  | valid b used =>
    obtain rfl := Option.some.inj h
    rfl
  | invalid issues => exact absurd h (by simp [Gives, value?])

theorem seq {f : Checked (α → β)} {g : α → β} (hf : f.Gives g) (hc : c.Gives a) :
    (f <*> c).Gives (g a) := by
  cases f with
  | valid f' used =>
    cases c with
    | valid b more =>
      obtain rfl := Option.some.inj hf
      obtain rfl := Option.some.inj hc
      rfl
    | invalid issues => exact absurd hc (by simp [Gives, value?])
  | invalid issues => exact absurd hf (by simp [Gives, value?])

theorem under (h : c.Gives a) (step : PathStep) : (c.under step).Gives a :=
  (value?_under step c).trans h

theorem member (h : c.Gives a) (key : Text) : (c.member key).Gives a :=
  (value?_member key c).trans h

end Checked.Gives

namespace Json

/-- A list whose items are read back one by one is read back. -/
theorem gives_toItems {α : Type} {read : Json → Checked α} {write : α → Json} {xs : List α}
    (h : ∀ x ∈ xs, (read (write x)).Gives x) (position : Nat) :
    (toItems read position (xs.map write)).Gives xs := by
  induction xs generalizing position with
  | nil => rfl
  | cons x xs ih =>
    have hx := (h x List.mem_cons_self).under (.index position)
    have hxs := ih (fun y hy => h y (List.mem_cons_of_mem x hy)) (position + 1)
    exact hx.map.seq hxs

theorem gives_ofTexts (ts : List Text) : (toList toText (ofTexts ts)).Gives ts := by
  have hitem : ∀ t ∈ ts, (toText (str t)).Gives t := fun _ _ => rfl
  exact gives_toItems hitem 0

theorem gives_ofNumber (n : Number) : (toNumber (ofNumber n)).Gives n := by
  cases n <;> rfl

/-- What is not `null` is read as a value. -/
theorem gives_toOption {α : Type} {read : Json → Checked α} {v : Json} {a : α} (hv : v ≠ .null)
    (h : (read v).Gives a) : (toOption read v).Gives (some a) := by
  cases v with
  | null => exact absurd rfl hv
  | _ => exact h.map

end Json

/-! ## Fields and their parts -/

namespace Descriptor

/-- No field is read under the key of another one. -/
def Separate (fields : List Field) : Prop :=
  fields.Pairwise fun f g => f.key ≠ g.key ∧ f.key ≠ g.name ∧ f.name ≠ g.key

instance (fields : List Field) : Decidable (Separate fields) :=
  inferInstanceAs (Decidable (List.Pairwise _ _))

/-- The members of an object: the values that are present, each under the key of its field. -/
def members (parts : List (Field × Option Json)) : List (Text × Json) :=
  parts.filterMap fun (f, v) => v.map (f.key, ·)

end Descriptor

/-- The field finds the value under its key, or nothing if there is no value. -/
def Field.Finds (f : Field) (ms : List (Text × Json)) (v : Option Json) : Prop :=
  f.find? ms = v.map (f.key, ·)

namespace Descriptor

theorem lookup_members_cons_of_ne {f : Field} {key : Text} (h : f.key ≠ key) (v : Option Json)
    (parts : List (Field × Option Json)) :
    (members ((f, v) :: parts)).lookup key = (members parts).lookup key := by
  cases v with
  | none => rfl
  | some v =>
    show ((f.key, v) :: members parts).lookup key = _
    rw [List.lookup_cons, beq_false_of_ne h.symm]

theorem lookup_members_eq_none {key : Text} {parts : List (Field × Option Json)}
    (h : ∀ f ∈ parts.map Prod.fst, f.key ≠ key) : (members parts).lookup key = none := by
  induction parts with
  | nil => rfl
  | cons part parts ih =>
    obtain ⟨f, v⟩ := part
    rw [List.map_cons, List.forall_mem_cons] at h
    rw [lookup_members_cons_of_ne h.1, ih h.2]

/-- **Every field finds its own part**, if no field is read under the key of another one. -/
theorem finds_members {parts : List (Field × Option Json)} {f : Field} {v : Option Json}
    (hsep : Separate (parts.map Prod.fst)) (h : (f, v) ∈ parts) : f.Finds (members parts) v := by
  induction parts with
  | nil => exact absurd h List.not_mem_nil
  | cons part parts ih =>
    obtain ⟨g, u⟩ := part
    obtain ⟨hfirst, hrest⟩ := List.pairwise_cons.mp hsep
    rcases List.mem_cons.mp h with heq | h
    · obtain ⟨rfl, rfl⟩ := Prod.mk.inj heq
      cases v with
      | some v =>
        -- the part stands in front, under the key that is looked up first
        show Field.find? f ((f.key, v) :: members parts) = _
        rw [Field.find?, List.lookup_cons_self]
        rfl
      | none =>
        have hkey : (members parts).lookup f.key = none :=
          lookup_members_eq_none fun g hg => (hfirst g hg).1.symm
        have hname : (members parts).lookup f.name = none :=
          lookup_members_eq_none fun g hg => (hfirst g hg).2.2.symm
        show Field.find? f (members parts) = _
        rw [Field.find?, hkey, hname]
        rfl
    · have hne := hfirst f (List.mem_map.mpr ⟨(f, v), h, rfl⟩)
      have hfind := ih hrest h
      rw [Field.Finds, Field.find?] at hfind ⊢
      rw [lookup_members_cons_of_ne hne.1, lookup_members_cons_of_ne hne.2.1]
      exact hfind

/-- The object has been written from these values, each under the key of its field. -/
structure Describes (j : Json) (fields : List Field) (values : List (Option Json)) : Prop where
  object : j = .obj (members (fields.zip values))
  length : fields.length = values.length
  separate : Separate fields

theorem Describes.finds {j : Json} {fields : List Field} {values : List (Option Json)}
    (h : Describes j fields values) {f : Field} {v : Option Json}
    (hmem : (f, v) ∈ fields.zip values) : f.Finds (members (fields.zip values)) v := by
  refine finds_members ?_ hmem
  rw [List.map_fst_zip (Nat.le_of_eq h.length)]
  exact h.separate

/-- The type is written first. -/
theorem Describes.type {j : Json} {fields : List Field} {values : List (Option Json)} {tag : Text}
    (h : Describes j (.type :: fields) (some (.str tag) :: values)) :
    Field.type.Finds (members ((.type, some (.str tag)) :: fields.zip values))
      (some (.str tag)) :=
  h.finds List.mem_cons_self

end Descriptor

/-! ## Reading parts -/

namespace Field.Finds

variable {f : Field} {ms : List (Text × Json)} {α : Type} {read : Json → Checked α}

theorem withDefault {v : Json} {a absent : α} (h : f.Finds ms (some v)) (hread : (read v).Gives a) :
    (f.withDefault read absent ms).Gives a := by
  rw [Field.withDefault, h]
  exact hread.member f.key

theorem required {v : Json} {a : α} (h : f.Finds ms (some v)) (hread : (read v).Gives a) :
    (f.required read ms).Gives a := by
  rw [Field.required, h]
  exact hread.member f.key

/-- **An absent part stays absent**, and one that is present is read back if its value is. -/
theorem optional {write : α → Json} {part : Option α} (h : f.Finds ms (part.map write))
    (hread : ∀ a ∈ part, write a ≠ .null ∧ (read (write a)).Gives a) :
    (f.optional read ms).Gives part := by
  cases part with
  | none =>
    rw [Field.optional, Field.withDefault, h]
    rfl
  | some a =>
    obtain ⟨hnull, hvalue⟩ := hread a rfl
    exact withDefault h (Json.gives_toOption hnull hvalue)

theorem optionalText {part : Option Text} (h : f.Finds ms (part.map .str)) :
    (Schema.optionalText f ms).Gives part :=
  optional h fun _ _ => ⟨by simp, rfl⟩

theorem optionalTexts {part : Option (List Text)} (h : f.Finds ms (part.map .ofTexts)) :
    (f.optional (Json.toList Json.toText) ms).Gives part :=
  optional h fun ts _ => ⟨by simp [Json.ofTexts], Json.gives_ofTexts ts⟩

theorem optionalFlag {part : Option Bool} (h : f.Finds ms (part.map .bool)) :
    (Schema.optionalFlag f ms).Gives part :=
  optional h fun _ _ => ⟨by simp, rfl⟩

theorem optionalInt {part : Option Int} (h : f.Finds ms (part.map .int)) :
    (f.optional Json.toInt ms).Gives part :=
  optional h fun _ _ => ⟨by simp, rfl⟩

theorem optionalNumber {part : Option Number} (h : f.Finds ms (part.map .ofNumber)) :
    (f.optional Json.toNumber ms).Gives part := by
  refine optional h fun n _ => ⟨?_, Json.gives_ofNumber n⟩
  cases n <;> simp [Json.ofNumber]

theorem textList {ts : List Text} (h : f.Finds ms (some (.ofTexts ts))) :
    (Schema.textList f ms).Gives ts :=
  withDefault h (Json.gives_ofTexts ts)

/-- A list that is empty if it is not given. -/
theorem list {write : α → Json} {xs : List α} (h : f.Finds ms (some (.arr (xs.map write))))
    (hread : ∀ x ∈ xs, (read (write x)).Gives x) :
    (f.withDefault (Json.toList read) [] ms).Gives xs :=
  withDefault h (Json.gives_toItems hread 0)

theorem fixedType {tag : Text} (h : Field.type.Finds ms (some (.str tag))) :
    (Schema.fixedType tag ms).Gives () := by
  refine withDefault h ?_
  rw [Schema.literal, if_pos rfl]
  rfl

/-- The mark of a preview is read back if it is set: an absent one would be taken for `true`. -/
theorem mark {part : Option Bool} (h : Field.streaming.Finds ms (part.map .bool))
    (hpart : part ≠ none) :
    (Field.streaming.withDefault (Json.toOption Json.toBool) (some true) ms).Gives part := by
  cases part with
  | none => exact absurd rfl hpart
  | some b => exact withDefault h rfl

end Field.Finds

end Widgetry
