import Widgetry.Text.Basic
import Widgetry.Text.CaseTable

/-!
# Lower case

Setting names and yes/no values are compared without regard to case, so both are lowered first.
Every character has its own image but two: a capital I with a dot becomes two characters, and a
capital sigma takes its final form at the end of a word, which is decided by the letters around it.
-/

namespace Widgetry.Text

/-- Does one of the ranges hold the code point? -/
def inRanges (ranges : List (Nat × Nat)) (n : Nat) : Bool :=
  ranges.any fun (first, last) => first ≤ n && n ≤ last

/-- Is the character skipped when the neighbours of a sigma are looked at? -/
def isCaseIgnorable (c : Char) : Bool := inRanges ignorableRanges c.toNat

/-- Does the character have case (and is not skipped)? -/
def isCased (c : Char) : Bool := inRanges casedRanges c.toNat

/-- The lower-case letter of a character, by the table of runs; other characters stay. -/
def lowerChar (c : Char) : Char :=
  let n := c.toNat
  match lowerRuns.find? fun (first, last, stride, _) =>
      first ≤ n && n ≤ last && (n - first) % stride == 0 with
  | some (first, _, _, image) => Char.ofNat (image + (n - first))
  | none => c

/-- Is the next character that is not skipped a cased one? -/
def casedAhead (t : Text) : Bool :=
  match t.dropWhile isCaseIgnorable with
  | [] => false
  | c :: _ => isCased c

/-- `lower`, with the lowered characters so far (latest first) and whether the last one that is
not skipped has case. -/
def lowerFrom (done : Text) (cased : Bool) : Text → Text
  | [] => done.reverse
  | c :: rest =>
    let image : Text :=
      if c == 'Σ' then [if cased && !casedAhead rest then 'ς' else 'σ']
      else if c == 'İ' then ['\u0307', 'i']
      else [lowerChar c]
    lowerFrom (image ++ done) (if isCaseIgnorable c then cased else isCased c) rest

/-- The text in lower case. -/
def lower (t : Text) : Text := lowerFrom [] false t

/-- Is the text the word `true`, in any letter case? -/
def isTrue (t : Text) : Bool := lower t == "true".toList

end Widgetry.Text
