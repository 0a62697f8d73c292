import Widgetry.Text.Basic

/-!
# Tokens

A line of the widget language is cut at spaces and line feeds. Double quotes keep a span together
and are dropped; square brackets keep a span together too, and the span becomes a token that keeps
its brackets and its raw inner text. Inside quotes a bracket is an ordinary character, inside
brackets a quote is. A span that is never closed is no error: it ends with the text.

The scanner is a state machine with one step per character, so a text that is still arriving can be
scanned from where it stopped: `scan (a ++ b)` continues `scan a`.
-/

namespace Widgetry

/-! ## The state machine -/

/-- Where the scanner stands: between spans, inside quotes or inside brackets. -/
inductive Span where
  | plain
  | quoted
  | bracketed
deriving Repr, DecidableEq

/-- The scanner between two characters. -/
structure Scan where
  /-- The finished tokens, latest first. -/
  tokens : List Text
  /-- The characters of the token that is being read, latest first. -/
  current : Text
  span : Span
deriving Repr, DecidableEq

namespace Scan

/-- Nothing has been read. -/
def start : Scan := ⟨[], [], .plain⟩

/-- Ends the current token; white space alone is no token. -/
def flush (s : Scan) : Scan :=
  match Text.trim s.current.reverse with
  | [] => ⟨s.tokens, [], s.span⟩
  | token => ⟨token :: s.tokens, [], s.span⟩

/-- Ends a bracketed span. What was read before the opening bracket goes into the token. -/
def closeBracket (s : Scan) : Scan :=
  ⟨('[' :: Text.trim s.current.reverse ++ [']']) :: s.tokens, [], .plain⟩

/-- Appends a character to the current token. -/
def push (s : Scan) (c : Char) : Scan := ⟨s.tokens, c :: s.current, s.span⟩

/-- Enters or leaves a span. -/
def enter (s : Scan) (span : Span) : Scan := ⟨s.tokens, s.current, span⟩

def step (s : Scan) (c : Char) : Scan :=
  match s.span with
  | .plain =>
    if c = '"' then s.enter .quoted
    else if c = '[' then s.enter .bracketed
    else if c = ' ' ∨ c = '\n' then s.flush
    else s.push c
  | .quoted => if c = '"' then s.enter .plain else s.push c
  | .bracketed =>
    if c = ']' then s.closeBracket
    else if c = '[' then s
    else s.push c

end Scan

/-- The scanner after a text. -/
def scan (t : Text) : Scan := t.foldl Scan.step Scan.start

/-- A text that goes on is scanned from where its first part ended. -/
theorem scan_append (a b : Text) : scan (a ++ b) = b.foldl Scan.step (scan a) := by
  simp [scan]

/-- The tokens of a text. -/
def tokenize (t : Text) : List Text := (scan t).flush.tokens.reverse

/-! ## Positions -/

/-- A position before the first token. -/
inductive PositionError where
  | beforeFirst
deriving Repr, DecidableEq

def PositionError.message : PositionError → Text
  | beforeFirst => "list index out of range".toList

/-- The token at a position, if there are so many. Negative positions count from the end, -1 being
the last token. -/
def tokenAt (tokens : List Text) : Int → Except PositionError (Option Text)
  | .ofNat i => .ok tokens[i]?
  | .negSucc i =>
    match tokens.reverse[i]? with
    | some token => .ok (some token)
    | none => .error .beforeFirst

end Widgetry
