import Widgetry.Proofs.LineEnds

/-!
# First tokens and blank lines

A blank line below the first one may come into a token that is still open, and change it. But it
stands behind a line feed, which is a blank, so a token that is a word is not the one that it changes:
the blanks stand in front of the word and are trimmed, or at its end, or they are in the middle of a
token that holds the line feed as well (`trim_append_blank_append`). So two scanners that have read the
same text, one with more blanks behind a blank (`Widened`), go on in step until the first token is
finished, and if it is a word, it is the same one (`head_tokenize_insert`).
-/

namespace Widgetry

open Text

/-! ## The first token -/

namespace Text

/-- A text that is empty or ends with a blank. -/
def EndsBlank (t : Text) : Prop := ∀ c ∈ t.getLast?, isBlank c = true

/-- Ink on both sides of a blank keeps the blank. -/
theorem exists_blank_mem_trim {x y : Text} (hx : ¬ Blank x) (hend : EndsBlank x) (hy : ¬ Blank y) :
    ∃ c ∈ trim (x ++ y), isBlank c = true := by
  have htrim : trim (x ++ y) = trimStart x ++ trimEnd y := by
    rw [trim, trimStart_append hx, trimEnd_append_of_ink hy]
  have hne : trimStart x ≠ [] := fun hnil => hx (trimStart_eq_nil_iff.mp hnil)
  obtain ⟨front, hfront⟩ : trimStart x <:+ x := List.dropWhile_suffix _
  have hlast : (front ++ trimStart x).getLast? = some ((trimStart x).getLast hne) := by
    rw [List.getLast?_append_of_ne_nil _ hne, List.getLast?_eq_getLast_of_ne_nil hne]
  rw [hfront] at hlast
  refine ⟨(trimStart x).getLast hne, ?_, hend _ hlast⟩
  rw [htrim]
  exact List.mem_append_left _ (List.getLast_mem hne)

/-- **Blanks that are put behind a blank do not matter for a trimmed word.** -/
theorem trim_append_blank_append {x y z : Text} (hx : EndsBlank x) (hz : Blank z)
    (hword : ∀ c ∈ trim (x ++ y), isBlank c = false) : trim (x ++ (z ++ y)) = trim (x ++ y) := by
  by_cases hxb : Blank x
  · rw [← List.append_assoc, trim, trimStart_append_of_blank (blank_append hxb hz), trim,
      trimStart_append_of_blank hxb]
  · by_cases hyb : Blank y
    · rw [trim_append_of_blank (blank_append hz hyb), trim_append_of_blank hyb]
    · obtain ⟨c, hc, hblank⟩ := exists_blank_mem_trim hxb hx hyb
      rw [hword c hc] at hblank
      exact absurd hblank (by simp)

end Text

namespace Scan

/-- The scanner has read the same text with more blanks behind a blank: they stand in the current
token, or the first token is finished, and if it is a word, the blanks have not changed it. -/
inductive Widened (s s' : Scan) : Prop
  | current {x y z : Text} (noTokens : s.tokens = []) (noTokens' : s'.tokens = [])
      (span : s'.span = s.span) (endsBlank : EndsBlank x) (blank : Blank z)
      (narrow : s.current.reverse = x ++ y) (wide : s'.current.reverse = x ++ (z ++ y))
  | finished {first : Text} (first_eq : s.tokens.getLast? = some first)
      (keeps : IsWord first → s'.tokens.getLast? = some first)

theorem widened_of_suffix {s s' u u' : Scan} {first : Text}
    (hfirst : s.tokens.getLast? = some first)
    (hkeeps : IsWord first → s'.tokens.getLast? = some first)
    (hs : s.tokens <:+ u.tokens) (hs' : s'.tokens <:+ u'.tokens) : Widened u u' :=
  .finished (getLast?_of_suffix hfirst hs) fun hword => getLast?_of_suffix (hkeeps hword) hs'

section Widened

variable {s s' : Scan} (h : Widened s s')
include h

theorem widened_flush : Widened s.flush s'.flush := by
  cases h with
  | finished hfirst hkeeps =>
    exact widened_of_suffix hfirst hkeeps (tokens_suffix_flush s) (tokens_suffix_flush s')
  | @current x y z hs hs' hspan hx hz hnarrow hwide =>
    have htrim : (∀ c ∈ trim s.current.reverse, isBlank c = false) →
        trim s'.current.reverse = trim s.current.reverse := by
      rw [hnarrow, hwide]
      exact trim_append_blank_append hx hz
    rcases flush_cases s with ⟨hnil, hflush⟩ | ⟨hne, hflush⟩
    · -- nothing but blanks has been read on both sides
      rcases flush_cases s' with ⟨-, hflush'⟩ | ⟨hne', -⟩
      · rw [hflush, hflush']
        exact .current (x := []) (y := []) (z := []) hs hs' hspan (by simp [EndsBlank])
          (by simp [Blank]) rfl rfl
      · rw [htrim (by simp [hnil]), hnil] at hne'
        exact absurd rfl hne'
    · have hfirst : s.flush.tokens.getLast? = some (trim s.current.reverse) := by
        rw [hflush, hs]
        rfl
      refine .finished hfirst fun hword => ?_
      have hsame := htrim fun c hc => (hword c hc).2
      rcases flush_cases s' with ⟨hnil', -⟩ | ⟨-, hflush'⟩
      · rw [hsame] at hnil'
        exact absurd hnil' hne
      · rw [hflush', hsame, hs']
        rfl

theorem widened_closeBracket : Widened s.closeBracket s'.closeBracket := by
  cases h with
  | finished hfirst hkeeps =>
    exact widened_of_suffix hfirst hkeeps (List.suffix_cons _ _) (List.suffix_cons _ _)
  | current hs hs' _ _ _ _ _ =>
    have hfirst : s.closeBracket.tokens.getLast? =
        some ('[' :: trim s.current.reverse ++ [']']) := by
      simp [closeBracket, hs]
    -- a bracketed token is no word
    exact .finished hfirst fun hword => absurd rfl (hword '[' (by simp)).1.2.1

theorem widened_push (c : Char) : Widened (s.push c) (s'.push c) := by
  cases h with
  | finished hfirst hkeeps => exact .finished hfirst hkeeps
  | @current x y z hs hs' hspan hx hz hnarrow hwide =>
    refine .current (x := x) (y := y ++ [c]) (z := z) hs hs' hspan hx hz ?_ ?_
    · simp [push, hnarrow]
    · simp [push, hwide]

theorem widened_enter (span : Span) : Widened (s.enter span) (s'.enter span) := by
  cases h with
  | finished hfirst hkeeps => exact .finished hfirst hkeeps
  | current hs hs' _ hx hz hnarrow hwide => exact .current hs hs' rfl hx hz hnarrow hwide

theorem widened_step (c : Char) : Widened (s.step c) (s'.step c) := by
  have hw := h
  cases h with
  | finished hfirst hkeeps =>
    exact widened_of_suffix hfirst hkeeps (tokens_suffix_step s c) (tokens_suffix_step s' c)
  | current _ _ hspan _ _ _ _ =>
    rcases step_alike hspan c with
      ⟨span, ⟨hs, hs'⟩, -⟩ | ⟨hs, hs'⟩ | ⟨⟨hs, hs'⟩, -⟩ | ⟨⟨hs, hs'⟩, -⟩
    · rw [hs, hs']
      exact widened_enter hw span
    · rw [hs, hs']
      exact widened_push hw c
    · rw [hs, hs']
      exact widened_flush hw
    · rw [hs, hs']
      exact widened_closeBracket hw

theorem widened_foldl (t : Text) : Widened (t.foldl step s) (t.foldl step s') := by
  induction t generalizing s s' with
  | nil => exact h
  | cons c t ih => exact ih (widened_step h c)

end Widened

end Scan

/-! ## A line of blanks -/

namespace Scan

theorem widened_refl (s : Scan) : Widened s s := by
  cases hfirst : s.tokens.getLast? with
  | none =>
    have hs : s.tokens = [] := List.getLast?_eq_none_iff.mp hfirst
    exact .current (x := []) (y := s.current.reverse) (z := []) hs hs rfl (by simp [EndsBlank])
      (by simp [Blank]) rfl rfl
  | some first => exact .finished hfirst fun _ => hfirst

section Blanks

variable {b : Text} (hb : Blank b)
include hb

theorem span_foldl_of_blank (s : Scan) : (b.foldl step s).span = s.span := by
  induction b generalizing s with
  | nil => rfl
  | cons c b ih =>
    rw [List.foldl_cons, ih fun d hd => hb d (List.mem_cons_of_mem c hd)]
    rcases step_of_blank (hb c List.mem_cons_self) s with hstep | ⟨hstep, -⟩
    · rw [hstep]
      rfl
    · rw [hstep, current_flush]

/-- Outside of spans a blank line ends the current token and leaves nothing else behind. -/
theorem foldl_step_of_blank_line {s : Scan} (hs : s.span = .plain) :
    (b ++ ['\n']).foldl step s = s.flush := by
  have hspan : (b.foldl step s).span = .plain := (span_foldl_of_blank hb s).trans hs
  have hend : (b.foldl step s).step '\n' = (b.foldl step s).flush := by simp [step, hspan]
  rw [List.foldl_append, List.foldl_cons, List.foldl_nil, hend, flush_foldl_of_blank hb]

/-- Inside a span blanks are taken into the token. -/
theorem foldl_step_of_blank_inside {s : Scan} (hs : s.span ≠ .plain) :
    b.foldl step s = ⟨s.tokens, b.reverse ++ s.current, s.span⟩ := by
  induction b generalizing s with
  | nil => rfl
  | cons c b ih =>
    rcases step_of_blank (hb c List.mem_cons_self) s with hstep | ⟨-, hplain⟩
    · rw [List.foldl_cons, hstep,
        ih (fun d hd => hb d (List.mem_cons_of_mem c hd)) (s := s.push c) hs]
      simp [push]
    · exact absurd hplain hs

/-- **A blank line behind a line feed.** Outside of spans it leaves nothing behind; inside it is
taken into the token, behind the blank that the line feed is. -/
theorem widened_blank_line (s : Scan) :
    Widened ((['\n'] : Text).foldl step s) (('\n' :: b ++ ['\n']).foldl step s) := by
  have hfeed : Blank ['\n'] := by decide
  have hfront : Blank ('\n' :: b) := blank_append hfeed hb
  by_cases hs : s.span = .plain
  · have hshort := foldl_step_of_blank_line (b := []) (by simp [Blank]) hs
    rw [List.nil_append] at hshort
    rw [hshort, foldl_step_of_blank_line hfront hs]
    exact widened_refl s.flush
  · cases hfirst : s.tokens.getLast? with
    | some first =>
      exact widened_of_suffix hfirst (fun _ => hfirst) (tokens_suffix_foldl s _)
        (tokens_suffix_foldl s _)
    | none =>
      have htokens : s.tokens = [] := List.getLast?_eq_none_iff.mp hfirst
      rw [foldl_step_of_blank_inside hfeed hs,
        foldl_step_of_blank_inside (blank_append hfront hfeed) hs]
      have hends : EndsBlank (s.current.reverse ++ ['\n']) := by
        intro c hc
        rw [List.getLast?_concat] at hc
        cases hc
        rfl
      exact .current (y := []) (z := b ++ ['\n']) htokens htokens rfl hends
        (blank_append hb hfeed) (by simp) (by simp)

end Blanks

end Scan

open Scan

/-- **A blank line changes no first token that is a word**, not even where a span is open. -/
theorem head_tokenize_insert {a b rest token : Text} (hb : Blank b) (hword : IsWord token)
    (h : (tokenize (a ++ '\n' :: rest)).head? = some token) :
    (tokenize (a ++ '\n' :: (b ++ '\n' :: rest))).head? = some token := by
  have hwide : Widened (scan (a ++ '\n' :: rest)).flush
      (scan (a ++ '\n' :: (b ++ '\n' :: rest))).flush := by
    have hline : a ++ '\n' :: (b ++ '\n' :: rest) = a ++ ('\n' :: b ++ ['\n']) ++ rest := by simp
    rw [scan_append, List.foldl_cons, hline, scan_append, scan_append]
    exact widened_flush (widened_foldl (widened_blank_line hb (scan a)) rest)
  rw [tokenize, List.head?_reverse] at h ⊢
  cases hwide with
  | current hnone =>
    rw [hnone] at h
    exact absurd h (by simp)
  | finished hfirst hkeeps =>
    rw [hfirst] at h
    obtain rfl := Option.some.inj h
    exact hkeeps hword

end Widgetry
