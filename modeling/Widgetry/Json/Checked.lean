import Widgetry.Json.Raw

/-!
# Checked reading

Reading a JSON value as something of the domain gives the thing, or all issues that were found, in
the order of the parts. A reader for a whole is put together from readers for its parts by the
applicative operations, which gather the issues of all parts instead of stopping at the first one.

Every issue tells its place as a path of keys and list positions. Every value tells how many members
it was read from, so that of several readings of one object the one can be chosen that accounts for
most of it.
-/

namespace Widgetry

/-! ## Issues -/

/-- What is wrong with a value. -/
inductive IssueKind where
  | missing
  | notTheLiteral
  | notAString
  /-- A string that is no text. -/
  | notText
  | stringTooShort
  | stringTooLong
  | notAList
  | notADictionary
  | notAnObject
  /-- Not an object, where several kinds of objects or a request are expected. -/
  | notAttributes
  | unknownTag
  | missingTag
  | notAnInteger
  | notWhole
  /-- A whole binary64 number that is not between -2^63 and 2^63. -/
  | tooLarge
  | notFinite
  | notANumber
  | notABoolean
  /-- All parts are valid, but they contradict each other. -/
  | inconsistent (explanation : Text)
  | malformedJson
  /-- The value lies inside too many values of its own kind. -/
  | tooDeep
deriving Repr, DecidableEq

/-- The code of a kind in a report. -/
def IssueKind.code : IssueKind → Text
  | missing => "missing".toList
  | notTheLiteral => "literal_error".toList
  | notAString => "string_type".toList
  | notText => "string_unicode".toList
  | stringTooShort => "string_too_short".toList
  | stringTooLong => "string_too_long".toList
  | notAList => "list_type".toList
  | notADictionary => "dict_type".toList
  | notAnObject => "model_type".toList
  | notAttributes => "model_attributes_type".toList
  | unknownTag => "union_tag_invalid".toList
  | missingTag => "union_tag_not_found".toList
  | notAnInteger => "int_type".toList
  | notWhole => "int_from_float".toList
  | tooLarge => "int_parsing_size".toList
  | notFinite => "finite_number".toList
  | notANumber => "float_type".toList
  | notABoolean => "bool_type".toList
  | inconsistent _ => "value_error".toList
  | malformedJson => "json_invalid".toList
  | tooDeep => "recursion_loop".toList

/-- One step from a value to a part of it. -/
inductive PathStep where
  | key (key : Text)
  | index (position : Nat)
deriving Repr, DecidableEq

structure Issue where
  kind : IssueKind
  path : List PathStep
deriving Repr, DecidableEq

def PathStep.toJson : PathStep → Json
  | .key name => .str name
  | .index position => .int position

/-- The report on an issue: its code and its place, and the explanation if it has one. -/
def Issue.toJson (i : Issue) : Json :=
  let place := Json.arr (i.path.map PathStep.toJson)
  match i.kind with
  | .inconsistent explanation =>
    .obj [("type".toList, .str i.kind.code), ("loc".toList, place),
      ("message".toList, .str explanation)]
  | kind => .obj [("type".toList, .str kind.code), ("loc".toList, place)]

/-! ## Checked values -/

/-- A value and the number of the members that it was read from, those of its parts included; or the
issues that prevent it. -/
inductive Checked (α : Type) where
  | valid (value : α) (used : Nat)
  | invalid (issues : List Issue)
deriving Repr, DecidableEq

namespace Checked

/-- A single issue with the value itself. -/
def fail {α : Type} (kind : IssueKind) : Checked α := invalid [⟨kind, []⟩]

def map {α β : Type} (f : α → β) : Checked α → Checked β
  | valid a used => valid (f a) used
  | invalid issues => invalid issues

/-- Applies a checked function; issues of the function come first. -/
def apply {α β : Type} : Checked (α → β) → Checked α → Checked β
  | valid f used, valid a more => valid (f a) (used + more)
  | valid _ _, invalid issues => invalid issues
  | invalid issues, valid _ _ => invalid issues
  | invalid issues, invalid more => invalid (issues ++ more)

/-- What is given outright is read from no member. -/
instance : Applicative Checked where
  pure a := valid a 0
  map := map
  seq f a := apply f (a ())

@[simp] theorem map_valid {α β : Type} (f : α → β) (a : α) (used : Nat) :
    f <$> valid a used = valid (f a) used := rfl

@[simp] theorem seq_valid {α β : Type} (f : α → β) (a : α) (used more : Nat) :
    valid f used <*> valid a more = valid (f a) (used + more) := rfl

/-- Checks what has been read. -/
def andThen {α β : Type} (c : Checked α) (check : α → Checked β) : Checked β :=
  match c with
  | valid a used =>
    match check a with
    | valid b more => valid b (used + more)
    | invalid issues => invalid issues
  | invalid issues => invalid issues

/-- The same result, as a part that one step leads to. -/
def under {α : Type} (step : PathStep) : Checked α → Checked α
  | valid a used => valid a used
  | invalid issues => invalid (issues.map fun issue => ⟨issue.kind, step :: issue.path⟩)

@[simp] theorem under_valid {α : Type} (step : PathStep) (a : α) (used : Nat) :
    (valid a used).under step = valid a used := rfl

/-- The same result, as the member of a key. -/
def member {α : Type} (key : Text) (c : Checked α) : Checked α :=
  match c.under (.key key) with
  | valid a used => valid a (used + 1)
  | invalid issues => invalid issues

@[simp] theorem member_valid {α : Type} (key : Text) (a : α) (used : Nat) :
    (valid a used).member key = valid a (used + 1) := rfl

/-- The value, if there is one. -/
def value? {α : Type} : Checked α → Option α
  | valid a _ => some a
  | invalid _ => none

/-- The issues. -/
def issues {α : Type} : Checked α → List Issue
  | valid _ _ => []
  | invalid issues => issues

@[simp] theorem value?_pure {α : Type} (a : α) : (pure a : Checked α).value? = some a := rfl

@[simp] theorem value?_fail {α : Type} (kind : IssueKind) :
    (fail kind : Checked α).value? = none := rfl

@[simp] theorem value?_under {α : Type} (step : PathStep) (c : Checked α) :
    (c.under step).value? = c.value? := by
  cases c <;> rfl

@[simp] theorem value?_member {α : Type} (key : Text) (c : Checked α) :
    (c.member key).value? = c.value? := by
  cases c <;> rfl

end Checked

/-! ## Simple values -/

/-- The text of a string that has been decoded. -/
def RawJson.toText : RawJson → Checked Text
  | .str points =>
    match Text.ofCodePoints? points with
    | some t => pure t
    | none => .fail .notText
  | _ => .fail .notAString

namespace Json

def toText : Json → Checked Text
  | str t => pure t
  | _ => .fail .notAString

def toBool : Json → Checked Bool
  | bool b => pure b
  | _ => .fail .notABoolean

/-- The whole binary64 numbers that count as integers are smaller than this. -/
def wholeLimit : Nat := 9223372036854775808

/-- An integer; a whole binary64 number counts as one if it is not too large. -/
def toInt : Json → Checked Int
  | int n => pure n
  | float x =>
    match x.toInt? with
    | some n => if n.natAbs < wholeLimit then pure n else .fail .tooLarge
    | none => if x.isFinite then .fail .notWhole else .fail .notFinite
  | _ => .fail .notAnInteger

/-- A number of either kind. What is none is wrong in two ways. -/
def toNumber : Json → Checked Number
  | int n => pure (.int n)
  | float x => pure (.float x)
  | _ => .invalid [⟨.notAnInteger, [.key "int".toList]⟩, ⟨.notANumber, [.key "float".toList]⟩]

/-- A free-form object. -/
def toMembers : Json → Checked (List (Text × Json))
  | obj members => pure members
  | _ => .fail .notADictionary

/-- `null`, or a value. -/
def toOption {α : Type} (read : Json → Checked α) : Json → Checked (Option α)
  | null => pure none
  | v => (read v).map some

/-- The items of a list, the first one at `position`. -/
def toItems {α : Type} (read : Json → Checked α) (position : Nat) : List Json → Checked (List α)
  | [] => pure []
  | v :: rest =>
    List.cons <$> (read v).under (.index position) <*> toItems read (position + 1) rest

def toList {α : Type} (read : Json → Checked α) : Json → Checked (List α)
  | arr items => toItems read 0 items
  | _ => .fail .notAList

end Json

/-! ## Members -/

/-- A member of an object: the key under which it is written, and a second spelling that is read as
well. -/
structure Field where
  key : Text
  name : Text
deriving Repr, DecidableEq

namespace Field

/-- The member and the key under which it is given. -/
def find? {α : Type} (f : Field) (members : List (Text × α)) : Option (Text × α) :=
  match members.lookup f.key with
  | some v => some (f.key, v)
  | none => (members.lookup f.name).map (f.name, ·)

/-- A member that must be given. -/
def required {α : Type} (f : Field) (read : Json → Checked α) (members : List (Text × Json)) :
    Checked α :=
  match f.find? members with
  | some (key, v) => (read v).member key
  | none => (Checked.fail .missing).under (.key f.key)

/-- A member with a value for the case that it is not given. -/
def withDefault {α : Type} (f : Field) (read : Json → Checked α) (absent : α)
    (members : List (Text × Json)) : Checked α :=
  match f.find? members with
  | some (key, v) => (read v).member key
  | none => pure absent

/-- A member that may be `null` or not given. -/
def optional {α : Type} (f : Field) (read : Json → Checked α) (members : List (Text × Json)) :
    Checked (Option α) :=
  f.withDefault (Json.toOption read) none members

end Field

/-- Reads the members of an object. -/
def Json.toObject {α : Type} (otherwise : IssueKind) (read : List (Text × Json) → Checked α) :
    Json → Checked α
  | .obj members => read members
  | _ => .fail otherwise

end Widgetry
