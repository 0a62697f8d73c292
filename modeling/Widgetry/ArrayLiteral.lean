import Widgetry.Text.Basic

/-!
# Array literals

An array token may separate its items by commas or spaces and may put either kind of quotes around
them. Its canonical form has single spaces between the items, and double quotes around an item that
needs them. Reading an array means to write it canonically and to cut the canonical form, in which
only double quotes and spaces have a meaning.
-/

namespace Widgetry.ArrayLiteral

/-! ## Items -/

/-- What has a meaning between items: the quotes that keep an item together, and the separators. -/
structure Dialect where
  quotes : List Char
  separators : List Char

/-- Either kind of quotes, items separated by commas or spaces. -/
def Dialect.liberal : Dialect := ⟨['"', '\x27'], [',', ' ']⟩

/-- Double quotes, items separated by spaces. -/
def Dialect.canonical : Dialect := ⟨['"'], [' ']⟩

/-- The item scanner between two characters. -/
structure ItemScan where
  /-- The finished items, latest first. -/
  items : List Text
  /-- The characters of the item that is being read, latest first. -/
  current : Text
  /-- The quote that is open. -/
  quote : Option Char
deriving Repr, DecidableEq

namespace ItemScan

/-- Nothing has been read. -/
def start : ItemScan := ⟨[], [], none⟩

/-- Ends the current item; white space alone is no item. -/
def flush (s : ItemScan) : ItemScan :=
  match Text.trim s.current.reverse with
  | [] => ⟨s.items, [], s.quote⟩
  | item => ⟨item :: s.items, [], s.quote⟩

def step (d : Dialect) (s : ItemScan) (c : Char) : ItemScan :=
  match s.quote with
  | some q => if c = q then ⟨s.items, s.current, none⟩ else ⟨s.items, c :: s.current, some q⟩
  | none =>
    if c ∈ d.quotes then ⟨s.items, s.current, some c⟩
    else if c ∈ d.separators then s.flush
    else ⟨s.items, c :: s.current, none⟩

end ItemScan

/-- The items between two brackets. -/
def items (d : Dialect) (content : Text) : List Text :=
  (content.foldl (ItemScan.step d) ItemScan.start).flush.items.reverse

/-! ## Canonical form -/

/-- Does an item have to be quoted? -/
def needsQuotes (item : Text) : Bool := item.contains ' ' || item.contains '\x27'

/-- An item as it stands in a canonical array. -/
def writeItem (item : Text) : Text :=
  if needsQuotes item then '"' :: item ++ ['"'] else item

/-- Items as the inner text of a canonical array. -/
def writeItems (items : List Text) : Text := [' '].intercalate (items.map writeItem)

/-- Is the text in brackets? A lone bracket must be both for that, which no character is. -/
def isBracketed (t : Text) : Bool := t.head? == some '[' && t.getLast? == some ']'

/-- The text between the brackets, trimmed. -/
def content (t : Text) : Text := Text.trim (Text.inner t)

/-- The canonical form of an array; a text that is not in brackets stays. -/
def normalize (t : Text) : Text :=
  if isBracketed t then
    match content t with
    | [] => "[]".toList
    | inner => '[' :: writeItems (items .liberal inner) ++ [']']
  else t

/-! ## Reading -/

/-- The text is not in brackets. -/
inductive ArrayError where
  | notBracketed
deriving Repr, DecidableEq

def ArrayError.message : ArrayError → Text
  | notBracketed => "Invalid array format".toList

/-- The items of an array. -/
def parse (t : Text) : Except ArrayError (List Text) :=
  if isBracketed t then
    match content (normalize t) with
    | [] => .ok []
    | inner => .ok (items .canonical inner)
  else .error .notBracketed

/-- The items of an array, if the text is one. -/
def parse? (t : Text) : Option (List Text) := (parse t).toOption

end Widgetry.ArrayLiteral
