import Widgetry.Text.Units
import Widgetry.Text.Utf8

/-!
# Recognising an encoding

Text in JSON begins with an ASCII character, and a text of more than one character nearly always
with two. So the zeros among the first four bytes tell how wide a code unit is and in which order
its bytes come; without zeros the text is in UTF-8.
-/

namespace Widgetry.Text

/-- The encodings of a JSON text; the wide ones with either order of bytes. -/
inductive Encoding where
  | utf8
  | utf16 (bigEndian : Bool)
  | utf32 (bigEndian : Bool)
deriving Repr, DecidableEq

namespace Encoding

/-- The encoding that the first bytes tell. -/
def detect : List UInt8 → Encoding
  | [a, b] => if a = 0 then utf16 true else if b = 0 then utf16 false else utf8
  | a :: b :: c :: d :: _ =>
    if a = 0 then (if b = 0 then utf32 true else utf16 true)
    else if b = 0 then (if c = 0 ∧ d = 0 then utf32 false else utf16 false)
    else utf8
  | _ => utf8

/-- The number that bytes denote, the most significant byte first. -/
def bytesValue (bytes : List UInt8) : Nat := bytes.foldl (fun n b => 0x100 * n + b.toNat) 0

/-- The code units of two bytes each, latest first, `done` being the earlier ones; nothing if a byte
is left over. -/
def units16? (bigEndian : Bool) (done : List Nat) : List UInt8 → Option (List Nat)
  | [] => some done
  | [_] => none
  | a :: b :: rest =>
    units16? bigEndian (bytesValue (if bigEndian then [a, b] else [b, a]) :: done) rest

/-- The code units of four bytes each, latest first, `done` being the earlier ones; nothing if bytes
are left over or a unit is no code point. -/
def units32? (bigEndian : Bool) (done : List Nat) : List UInt8 → Option (List Nat)
  | [] => some done
  | a :: b :: c :: d :: rest =>
    let unit := bytesValue (if bigEndian then [a, b, c, d] else [d, c, b, a])
    if unit < 0x110000 then units32? bigEndian (unit :: done) rest else none
  | _ => none

/-- The code points that bytes encode, if they encode any. A byte order mark in front of UTF-8 is
skipped. Half a surrogate pair may stand alone in the wide encodings. -/
def decode? (encoding : Encoding) (bytes : List UInt8) : Option (List Nat) :=
  match encoding with
  | utf8 =>
    match ofUtf8 bytes with
    | .ok ('\uFEFF' :: t) => some (codePoints t)
    | .ok t => some (codePoints t)
    | .error _ => none
  | utf16 bigEndian => (units16? bigEndian [] bytes).map joinReversed
  | utf32 bigEndian => (units32? bigEndian [] bytes).map List.reverse

end Encoding

end Widgetry.Text
