import Widgetry.Text.Basic

/-!
# UTF-8

A strict decoder as an automaton over bytes. The state between two bytes is either "between
characters" or "inside a sequence", where the lead byte has fixed how many bytes are missing and
which values the next one may take; with that, overlong forms, surrogates and values above U+10FFFF
are refused at the first byte that makes them so. A fault tells which bytes it covers.
-/

namespace Widgetry.Text

/-! ## Faults -/

/-- Why bytes are not a text. -/
inductive Utf8Reason where
  | invalidStart
  | invalidContinuation
  | unexpectedEnd
deriving Repr, DecidableEq

/-- A fault covers the bytes of an unfinished sequence, or the one byte that starts none. -/
structure Utf8Fault where
  /-- The position of the first byte that the fault covers. -/
  start : Nat
  /-- The first byte covered. -/
  first : UInt8
  /-- How many bytes are covered beside the first one. -/
  more : Nat
  reason : Utf8Reason
deriving Repr, DecidableEq

namespace Utf8Reason

def message : Utf8Reason → Text
  | invalidStart => "invalid start byte".toList
  | invalidContinuation => "invalid continuation byte".toList
  | unexpectedEnd => "unexpected end of data".toList

end Utf8Reason

/-- A byte as two hexadecimal digits. -/
def hexByte (b : UInt8) : Text :=
  [Nat.digitChar (b.toNat / 16), Nat.digitChar (b.toNat % 16)]

/-- One byte is shown by its value, several by their positions. -/
def Utf8Fault.message (fault : Utf8Fault) : Text :=
  let place : Text :=
    if fault.more = 0 then
      "byte 0x".toList ++ hexByte fault.first ++ " in position ".toList ++ ofNat fault.start
    else
      "bytes in position ".toList ++ ofNat fault.start ++ "-".toList ++
        ofNat (fault.start + fault.more)
  "'utf-8' codec can't decode ".toList ++ place ++ ": ".toList ++ fault.reason.message

/-! ## The automaton -/

/-- An open byte sequence: what its bytes so far denote and what may come next. -/
structure Utf8Open where
  start : Nat
  first : UInt8
  /-- How many continuation bytes have been read. -/
  read : Nat
  /-- How many continuation bytes are missing after the next one. -/
  left : Nat
  /-- The bits read so far. -/
  bits : Nat
  /-- The next byte must not be below `low` … -/
  low : UInt8
  /-- … nor above `high`. -/
  high : UInt8
deriving Repr, DecidableEq

/-- The decoder between two bytes. -/
structure Utf8State where
  /-- The characters decoded so far, latest first. -/
  done : Text
  /-- The position of the next byte. -/
  position : Nat
  sequence : Option Utf8Open
deriving Repr, DecidableEq

namespace Utf8State

/-- Nothing has been read. -/
def start : Utf8State := ⟨[], 0, none⟩

/-- A byte between two characters. -/
def lead (s : Utf8State) (b : UInt8) : Except Utf8Fault Utf8State :=
  let begin (left bits : Nat) (low high : UInt8) : Except Utf8Fault Utf8State :=
    .ok ⟨s.done, s.position + 1, some ⟨s.position, b, 0, left, bits, low, high⟩⟩
  if b < 0x80 then .ok ⟨Char.ofNat b.toNat :: s.done, s.position + 1, none⟩
  else if b < 0xC2 then .error ⟨s.position, b, 0, .invalidStart⟩
  else if b < 0xE0 then begin 0 (b.toNat - 0xC0) 0x80 0xBF
  else if b = 0xE0 then begin 1 0 0xA0 0xBF
  else if b = 0xED then begin 1 0xD 0x80 0x9F
  else if b < 0xF0 then begin 1 (b.toNat - 0xE0) 0x80 0xBF
  else if b = 0xF0 then begin 2 0 0x90 0xBF
  else if b < 0xF4 then begin 2 (b.toNat - 0xF0) 0x80 0xBF
  else if b = 0xF4 then begin 2 4 0x80 0x8F
  else .error ⟨s.position, b, 0, .invalidStart⟩

/-- A byte inside a sequence. -/
def continuation (s : Utf8State) (o : Utf8Open) (b : UInt8) : Except Utf8Fault Utf8State :=
  if o.low ≤ b && b ≤ o.high then
    let bits := 64 * o.bits + (b.toNat - 0x80)
    match o.left with
    | 0 => .ok ⟨Char.ofNat bits :: s.done, s.position + 1, none⟩
    | left + 1 =>
      .ok ⟨s.done, s.position + 1,
        some ⟨o.start, o.first, o.read + 1, left, bits, 0x80, 0xBF⟩⟩
  else .error ⟨o.start, o.first, o.read, .invalidContinuation⟩

def step (s : Utf8State) (b : UInt8) : Except Utf8Fault Utf8State :=
  match s.sequence with
  | none => s.lead b
  | some o => s.continuation o b

/-- The text, unless a sequence is still open. -/
def finish (s : Utf8State) : Except Utf8Fault Text :=
  match s.sequence with
  | none => .ok s.done.reverse
  | some o => .error ⟨o.start, o.first, o.read, .unexpectedEnd⟩

end Utf8State

/-- The text that the bytes encode. -/
def ofUtf8 (bytes : List UInt8) : Except Utf8Fault Text :=
  (bytes.foldlM Utf8State.step Utf8State.start).bind Utf8State.finish

/-- The bytes that encode the text. -/
def toUtf8 (t : Text) : List UInt8 := t.flatMap String.utf8EncodeChar

end Widgetry.Text
