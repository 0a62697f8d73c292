import Widgetry.Text.Basic

/-!
# Open spans of a text that is still arriving

While a text arrives, its end may lie inside quotes or between brackets. This scanner watches both
kinds of quotes and counts brackets; a bracket inside quotes does not count, and a closing bracket
too many is remembered as a negative depth. Closing everything that is open completes the text.
-/

namespace Widgetry

/-- What is open at a point of a text. -/
structure OpenSpan where
  /-- The quote that is open. -/
  quote : Option Char
  /-- Opening brackets less closing ones. -/
  depth : Int
deriving Repr, DecidableEq

namespace OpenSpan

/-- Nothing is open. -/
def start : OpenSpan := ⟨none, 0⟩

/-- Is the character a quote? -/
def isQuote (c : Char) : Bool := c == '"' || c == '\x27'

def step (s : OpenSpan) (c : Char) : OpenSpan :=
  match s.quote with
  | some q => if c = q then ⟨none, s.depth⟩ else s
  | none =>
    if isQuote c then ⟨some c, s.depth⟩
    else if c = '[' then ⟨none, s.depth + 1⟩
    else if c = ']' then ⟨none, s.depth - 1⟩
    else s

/-- What is open at the end of a text. -/
def ofText (t : Text) : OpenSpan := t.foldl step start

/-- A text that goes on is watched from where its first part ended. -/
theorem ofText_append (a b : Text) : ofText (a ++ b) = b.foldl step (ofText a) := by
  simp [ofText]

/-- Is a bracket open? -/
def bracketOpen (s : OpenSpan) : Bool := 0 < s.depth

/-- Is a quote open? -/
def quoteOpen (s : OpenSpan) : Bool := s.quote.isSome

/-- What closes everything that is open: the quote first, then the brackets. -/
def closing (s : OpenSpan) : Text := s.quote.toList ++ List.replicate s.depth.toNat ']'

end OpenSpan

/-- The text with everything closed that is open at its end. -/
def complete (t : Text) : Text := t ++ (OpenSpan.ofText t).closing

end Widgetry
