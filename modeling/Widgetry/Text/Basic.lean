/-!
# Texts

A text is the list of its characters: lengths and positions count characters, and a reader is a
recursion on the text itself. Three operations are shared by all the grammars: trimming white
space, cutting at a separator, and cutting into words.

`Text.cut` returns its first piece apart from the others, so that "there is always a first line"
is a fact of the type and no reader has to ask for it.
-/

namespace Widgetry

/-- A text, as the list of its characters. -/
abbrev Text : Type := List Char

namespace Text

/-! ## White space -/

/-- White space: the separators and the characters that break lines or paragraphs. Characters of
width zero (U+200B, U+FEFF) are not among them. -/
def isBlank (c : Char) : Bool :=
  let n := c.toNat
  (0x09 ≤ n && n ≤ 0x0D) || (0x1C ≤ n && n ≤ 0x20) || n == 0x85 || n == 0xA0 || n == 0x1680 ||
    (0x2000 ≤ n && n ≤ 0x200A) || n == 0x2028 || n == 0x2029 || n == 0x202F || n == 0x205F ||
    n == 0x3000

/-- The characters that end a line of a settings file. White space that ends no line is the
horizontal kind and the unit separator U+001F. -/
def isLineEnd (c : Char) : Bool :=
  let n := c.toNat
  (0x0A ≤ n && n ≤ 0x0D) || (0x1C ≤ n && n ≤ 0x1E) || n == 0x85 || n == 0x2028 || n == 0x2029

/-- The text without the white space at its front. -/
def trimStart (t : Text) : Text := t.dropWhile isBlank

/-- The text without the white space at its end. -/
def trimEnd (t : Text) : Text := (t.reverse.dropWhile isBlank).reverse

/-- The text without the white space at its two ends. -/
def trim (t : Text) : Text := trimEnd (trimStart t)

/-! ## Cutting -/

/-- The pieces between the characters that satisfy `p`: the first one, and the others. A text
without such a character is one piece, and two of them side by side enclose an empty piece. -/
def cut (p : Char → Bool) (t : Text) : Text × List Text :=
  t.foldr (fun c pieces =>
    if p c then ([], pieces.1 :: pieces.2) else (c :: pieces.1, pieces.2)) ([], [])

/-- The pieces of `cut`, the first one included. -/
def pieces (p : Char → Bool) (t : Text) : List Text :=
  let (first, others) := cut p t
  first :: others

@[simp] theorem cut_nil (p : Char → Bool) : cut p [] = ([], []) := rfl

theorem cut_cons_of_pos {p : Char → Bool} {c : Char} (t : Text) (h : p c = true) :
    cut p (c :: t) = ([], (cut p t).1 :: (cut p t).2) := by
  simp [cut, h]

theorem cut_cons_of_neg {p : Char → Bool} {c : Char} (t : Text) (h : p c = false) :
    cut p (c :: t) = (c :: (cut p t).1, (cut p t).2) := by
  simp [cut, h]

/-- An empty piece in front puts a separator in front. -/
theorem intercalate_nil_cons (sep : Char) (first : Text) (others : List Text) :
    [sep].intercalate ([] :: first :: others) = sep :: [sep].intercalate (first :: others) := by
  simp [List.intercalate, List.intersperse]

/-- A character in front of the first piece is in front of everything. -/
theorem intercalate_cons_cons (sep c : Char) (first : Text) (others : List Text) :
    [sep].intercalate ((c :: first) :: others) = c :: [sep].intercalate (first :: others) := by
  cases others <;> simp [List.intercalate, List.intersperse]

/-- Cutting loses nothing: with the separator between them the pieces are the text. -/
theorem intercalate_pieces (sep : Char) (t : Text) :
    [sep].intercalate (pieces (· == sep) t) = t := by
  induction t with
  | nil => rfl
  | cons c t ih =>
    simp only [pieces] at ih ⊢
    by_cases h : c = sep
    · rw [cut_cons_of_pos t (by simp [h]), intercalate_nil_cons, ih, h]
    · rw [cut_cons_of_neg t (by simp [h]), intercalate_cons_cons, ih]

/-- The first line, and the lines after it. -/
def lines (t : Text) : Text × List Text := cut (· == '\n') t

/-- The comma-separated cells of a line, each trimmed: the first one, and the others. -/
def cells (t : Text) : Text × List Text :=
  let (first, others) := cut (· == ',') t
  (trim first, others.map trim)

/-- The words of a text: its longest runs without white space. -/
def words (t : Text) : List Text := (pieces isBlank t).filter (· ≠ [])

/-- The text before the first `sep` and the text after it, if there is a `sep`. -/
def cutFirst? (sep : Char) (t : Text) : Option (Text × Text) :=
  match t.dropWhile (· != sep) with
  | [] => none
  | _ :: after => some (t.takeWhile (· != sep), after)

/-! ## Writing -/

/-- A natural number in decimal. -/
def ofNat (n : Nat) : Text := Nat.toDigits 10 n

/-- An integer in decimal, with a minus sign if it is negative. -/
def ofInt : Int → Text
  | .ofNat n => ofNat n
  | .negSucc n => '-' :: ofNat (n + 1)

/-- The text without its first and last characters. -/
def inner (t : Text) : Text := t.tail.dropLast

end Text

end Widgetry
