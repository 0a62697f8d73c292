import Widgetry.Streaming.Preview

/-!
# Blocks that may still be arriving

The answer for a text of which more may arrive. Nothing is kept between two answers: each is a
function of the text so far. A text whose first word can no longer become a keyword is refused, a
word that can is waited for, and a block that is closed and can be read is complete.
-/

namespace Widgetry.Streaming

/-- Which spans are open at the end of a text. -/
def pendingOf (t : Text) : Pending :=
  let s := OpenSpan.ofText t
  { Pending.unstated with unclosedBracket := s.bracketOpen, unclosedQuote := s.quoteOpen }

/-- The answer for a text that can become no widget. -/
def refused (reason : Text) : StreamingResult := ⟨false, none, none, none, reason⟩

/-- The answer while the first word may still grow into a keyword. -/
def undecided : StreamingResult :=
  ⟨false, none, none, some { Pending.unstated with unclosedBracket := false, unclosedQuote := false },
    none⟩

/-- The answer for a block that has been read. -/
def completeResult (word : Text) (w : Widget) : StreamingResult :=
  ⟨true, word, some (.widget w), none, none⟩

/-- The widget of a text without open spans, if it can be read. -/
def finished? (source : Text) : Option Widget :=
  let s := OpenSpan.ofText source
  if s.bracketOpen || s.quoteOpen then none else (Grammar.parse source).toOption

/-- The answer for a block that may still be arriving. -/
def stream (t : Text) : Except OversizedInteger StreamingResult :=
  let source := Text.trim t
  if source = [] then .ok (refused ParseError.emptyInput.message)
  else
    let word := Keyword.leadingWord source
    match Keyword.ofText? word with
    | none =>
      if Keyword.canGrowFrom word then .ok undecided
      else .ok (refused (ParseError.unknownType word).message)
    | some _ =>
      match finished? source with
      | some w => .ok (completeResult word w)
      | none => preview word source (pendingOf source)

end Widgetry.Streaming
