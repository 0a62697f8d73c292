import Widgetry.Json.Lexeme

/-!
# Reading JSON

The second half of reading JSON: from lexemes to a value, as an automaton with a stack of the
containers that are still open. If an object repeats a key, the last value counts. Both automata run
side by side, so the fault that is reported is the first one in the text.
-/

namespace Widgetry.Json

/-- Why a text is no JSON value that can be read. -/
inductive ReadFault where
  | malformed
  /-- An integer of too many digits stands where a value may stand. -/
  | oversized
  /-- More than `maxOpen` containers lie inside each other. -/
  | tooDeep
deriving Repr, DecidableEq

/-- A container that is still open, with its finished parts, latest first. -/
inductive Container where
  | array (items : List RawJson)
  | object (members : List (List Nat × RawJson)) (key : List Nat)
deriving Repr

/-- What may come next. -/
inductive Expected where
  | value
  /-- A value or the end of the array that has just been opened. -/
  | firstItem
  /-- A key or the end of the object that has just been opened. -/
  | firstKey
  /-- A key of the object that has these members, latest first. -/
  | key (members : List (List Nat × RawJson))
  | colon
  /-- A comma or the end of the innermost container. -/
  | separator
  /-- The value is complete. -/
  | nothing (v : RawJson)
deriving Repr

/-- The open containers, innermost first, and what may come next. -/
structure Builder where
  containers : List Container
  expected : Expected
deriving Repr

namespace Builder

def start : Builder := ⟨[], .value⟩

/-- The most containers that may lie inside each other. -/
def maxOpen : Nat := 960

/-- The members, latest first, with one more. -/
def addMember (key : List Nat) (v : RawJson) (members : List (List Nat × RawJson)) :
    List (List Nat × RawJson) :=
  if members.any (·.1 == key) then
    members.map fun member => if member.1 == key then (key, v) else member
  else (key, v) :: members

/-- Puts a complete value into the innermost container. -/
def put (v : RawJson) : List Container → Builder
  | [] => ⟨[], .nothing v⟩
  | .array items :: outer => ⟨.array (v :: items) :: outer, .separator⟩
  | .object members key :: outer => ⟨.object (addMember key v members) key :: outer, .separator⟩

/-- Puts a value, or begins one, where a value is expected. -/
def beginValue (containers : List Container) : Lexeme → Except ReadFault Builder
  | .string points => .ok (put (.str points) containers)
  | .value v => .ok (put v containers)
  | .openArray =>
    if containers.length < maxOpen then .ok ⟨.array [] :: containers, .firstItem⟩
    else .error .tooDeep
  | .openObject =>
    if containers.length < maxOpen then .ok ⟨containers, .firstKey⟩ else .error .tooDeep
  | .oversized => .error .oversized
  | _ => .error .malformed

/-- Ends the innermost container, which must be an array. -/
def closeArray : List Container → Except ReadFault Builder
  | .array items :: outer => .ok (put (.arr items.reverse) outer)
  | _ => .error .malformed

/-- Ends the innermost container, which must be an object. -/
def closeObject : List Container → Except ReadFault Builder
  | .object members _ :: outer => .ok (put (.obj members.reverse) outer)
  | _ => .error .malformed

/-- Goes on to the next part of the innermost container. -/
def nextPart : List Container → Builder
  | .object members _ :: outer => ⟨outer, .key members⟩
  | containers => ⟨containers, .value⟩

def step (b : Builder) (l : Lexeme) : Except ReadFault Builder :=
  match b.expected, l with
  | .value, l => beginValue b.containers l
  | .firstItem, .closeArray => closeArray b.containers
  | .firstItem, l => beginValue b.containers l
  | .firstKey, .string key => .ok ⟨.object [] key :: b.containers, .colon⟩
  | .firstKey, .closeObject => .ok (put (.obj []) b.containers)
  | .key members, .string key => .ok ⟨.object members key :: b.containers, .colon⟩
  | .colon, .colon => .ok ⟨b.containers, .value⟩
  | .separator, .comma => .ok (nextPart b.containers)
  | .separator, .closeArray => closeArray b.containers
  | .separator, .closeObject => closeObject b.containers
  | _, _ => .error .malformed

/-- Takes the lexemes one after the other. -/
def take (b : Builder) (ls : List Lexeme) : Except ReadFault Builder := ls.foldlM step b

/-- The value, if it is complete. -/
def finish (b : Builder) : Except ReadFault RawJson :=
  match b.expected with
  | .nothing v => .ok v
  | _ => .error .malformed

end Builder

/-- Both automata between two code points. -/
structure Reader where
  reading : Reading
  builder : Builder

namespace Reader

/-- Nothing has been read. -/
def start : Reader := ⟨.nothing, .start⟩

def step (s : Reader) (point : Nat) : Except ReadFault Reader :=
  match s.reading.step? point with
  | some (reading, ended) => (s.builder.take ended).map (Reader.mk reading)
  | none => .error .malformed

def finish (s : Reader) : Except ReadFault RawJson :=
  match s.reading.finish? with
  | some ended => (s.builder.take ended).bind Builder.finish
  | none => .error .malformed

end Reader

/-- The value that code points denote. -/
def readRaw (points : List Nat) : Except ReadFault RawJson :=
  (points.foldlM Reader.step Reader.start).bind Reader.finish

/-- The JSON value that a text denotes. There is none if a string in it is no text. -/
def read (t : Text) : Except ReadFault Json :=
  match readRaw (Text.codePoints t) with
  | .ok v =>
    match v.toJson? with
    | some j => .ok j
    | none => .error .malformed
  | .error fault => .error fault

end Widgetry.Json
