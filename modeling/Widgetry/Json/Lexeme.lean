import Widgetry.Json.Raw
import Widgetry.Number.Literal

/-!
# JSON lexemes

The first half of reading JSON: from code points to lexemes, as an automaton with one step per code
point. A string is collected as a list of code units and joined when it closes, because an escape
may name half of a surrogate pair. Letters, digits and signs form words, and a word must be a number
or one of the named values. The named values include `NaN` and the infinities.
-/

namespace Widgetry.Json

/-- A mark or a complete simple value. -/
inductive Lexeme where
  | openArray
  | closeArray
  | openObject
  | closeObject
  | comma
  | colon
  | string (points : List Nat)
  | value (v : RawJson)
  /-- An integer of more digits than are read. -/
  | oversized
deriving Repr

/-! ## Words -/

/-- Are the characters ASCII digits, at least one, and without a superfluous leading zero? -/
def isPlainInteger : Text → Bool
  | [] => false
  | ['0'] => true
  | '0' :: _ => false
  | t => t.all Char.isDigit

/-- The exponent of a number after its digits, if it is well formed. -/
def isExponent : Text → Bool
  | [] => true
  | e :: rest =>
    let digits := match rest with
      | '+' :: digits => digits
      | '-' :: digits => digits
      | digits => digits
    (e == 'e' || e == 'E') && digits != [] && digits.all Char.isDigit

/-- A number: an integer as it stands, and with a fraction or an exponent a binary64 number. -/
def numberOfWord? (word : Text) : Option Lexeme :=
  let (negative, t) := match word with
    | '-' :: rest => (true, rest)
    | rest => (false, rest)
  let whole := t.takeWhile Char.isDigit
  let rest := t.dropWhile Char.isDigit
  if !isPlainInteger whole then none
  else match rest with
    | [] =>
      if maxIntegerDigits < whole.length then some .oversized
      else
        let size := Text.digitsValue (whole.filterMap Text.digitValue?)
        some (.value (.int (if negative then -size else size)))
    | '.' :: rest =>
      if (rest.takeWhile Char.isDigit) != [] && isExponent (rest.dropWhile Char.isDigit) then
        (Binary64.read? word).map fun x => .value (.float x)
      else none
    | rest =>
      if isExponent rest then (Binary64.read? word).map fun x => .value (.float x) else none

/-- What a word names. -/
def lexemeOfWord? (word : Text) : Option Lexeme :=
  if word = "null".toList then some (.value .null)
  else if word = "true".toList then some (.value (.bool true))
  else if word = "false".toList then some (.value (.bool false))
  else if word = "NaN".toList then some (.value (.float .nan))
  else if word = "Infinity".toList then some (.value (.float (.infinity false)))
  else if word = "-Infinity".toList then some (.value (.float (.infinity true)))
  else numberOfWord? word

/-! ## Strings -/

/-- The character that a one-letter escape stands for. -/
def escaped? : Char → Option Char
  | '"' => some '"'
  | '\\' => some '\\'
  | '/' => some '/'
  | 'b' => some '\x08'
  | 'f' => some '\x0C'
  | 'n' => some '\n'
  | 'r' => some '\r'
  | 't' => some '\t'
  | _ => none

/-- The value of a hexadecimal digit. -/
def hexDigit? (c : Char) : Option Nat :=
  if '0' ≤ c ∧ c ≤ '9' then some (c.toNat - '0'.toNat)
  else if 'a' ≤ c ∧ c ≤ 'f' then some (c.toNat - 'a'.toNat + 10)
  else if 'A' ≤ c ∧ c ≤ 'F' then some (c.toNat - 'A'.toNat + 10)
  else none

/-! ## The automaton -/

/-- What the characters since the last lexeme are part of. -/
inductive Reading where
  | nothing
  /-- A word, latest character first. -/
  | word (chars : Text)
  /-- A string, latest code unit first. -/
  | string (units : List Nat)
  /-- A string, directly after a backslash. -/
  | escape (units : List Nat)
  /-- A string, inside an escape by number that lacks `missing + 1` digits. -/
  | number (units : List Nat) (missing : Nat) (code : Nat)
deriving Repr

namespace Reading

/-- The mark that a character is. -/
def mark? : Char → Option Lexeme
  | '[' => some .openArray
  | ']' => some .closeArray
  | '\x7b' => some .openObject
  | '\x7d' => some .closeObject
  | ',' => some .comma
  | ':' => some .colon
  | _ => none

/-- The lexeme that ends where something other than a word begins, if a word was being read. -/
def endWord? : Reading → Option (List Lexeme)
  | word chars => (lexemeOfWord? chars.reverse).map ([·])
  | _ => some []

/-- A character outside strings: what is being read after it, and the lexemes that it ends. -/
def outside? (r : Reading) (c : Char) : Option (Reading × List Lexeme) :=
  if c = ' ' ∨ c = '\t' ∨ c = '\n' ∨ c = '\r' then r.endWord?.map (nothing, ·)
  else if c = '"' then r.endWord?.map (string [], ·)
  else match mark? c with
    | some m => r.endWord?.map fun ended => (nothing, ended ++ [m])
    | none =>
      match r with
      | word chars => some (word (c :: chars), [])
      | _ => some (word [c], [])

/-- A code point: what is being read after it, and the lexemes that it ends. A surrogate can stand
in a string only. -/
def step? (r : Reading) (point : Nat) : Option (Reading × List Lexeme) :=
  let c? := Text.charOf? point
  match r with
  | string units =>
    if c? = some '"' then some (nothing, [.string (Text.joinReversed units)])
    else if c? = some '\\' then some (escape units, [])
    else if point < 0x20 then none
    else some (string (point :: units), [])
  | escape units =>
    if c? = some 'u' then some (number units 3 0, [])
    else (c?.bind escaped?).map fun e => (string (e.toNat :: units), [])
  | number units missing code =>
    (c?.bind hexDigit?).map fun d =>
      match missing with
      | 0 => (string ((16 * code + d) :: units), [])
      | missing + 1 => (number units missing (16 * code + d), [])
  | r => c?.bind r.outside?

/-- The lexemes that the end of the text ends; nothing inside a string. -/
def finish? : Reading → Option (List Lexeme)
  | nothing => some []
  | word chars => (word chars).endWord?
  | _ => none

end Reading

end Widgetry.Json
