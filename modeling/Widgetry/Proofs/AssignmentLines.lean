import Widgetry.Proofs.Lines
import Widgetry.Proofs.Trim
import Widgetry.Settings.EnvFile

/-!
# The lines of a settings file

What a line assigns is said without the reader (`Assigns`): the key in front of the first `=`, and
the value behind it without its quotes. The reader finds just this (`assignment?_eq_some_iff`).

The lines are those of an editor (`splitLines`): a carriage return and a line feed end a line
together, and behind the last line end there is no further line. Cutting at every character that ends
a line gives some more lines, but all of them are empty and say nothing (`assigned_assignments`).
-/

namespace Widgetry.Settings

open Text

/-! ## Quotes -/

/-- Does the character open and close a value? -/
def IsQuote (c : Char) : Prop := c = '"' ∨ c = '\x27'

/-- What is written for a value, with or without quotes. A lone quote is opening and closing quote at
once. -/
inductive Unquotes : Text → Text → Prop where
  | quoted {q : Char} (hq : IsQuote q) (value : Text) : Unquotes (q :: value ++ [q]) value
  | lone {q : Char} (hq : IsQuote q) : Unquotes [q] []
  | bare {value : Text}
    (h : ∀ q, IsQuote q → ¬ (value.head? = some q ∧ value.getLast? = some q)) : Unquotes value value

theorem inner_quoted (q : Char) (value : Text) : inner (q :: (value ++ [q])) = value :=
  List.dropLast_concat

theorem unquote_of_quotes {written : Text} {q : Char} (hq : IsQuote q)
    (hhead : written.head? = some q) (hlast : written.getLast? = some q) :
    unquote written = inner written := by
  rcases hq with rfl | rfl
  · simp [unquote, hhead, hlast]
  · simp [unquote, hhead, hlast]

theorem unquote_of_bare {value : Text}
    (h : ∀ q, IsQuote q → ¬ (value.head? = some q ∧ value.getLast? = some q)) :
    unquote value = value := by
  have hdouble := h '"' (Or.inl rfl)
  have hsingle := h '\x27' (Or.inr rfl)
  unfold unquote
  rw [if_neg]
  simpa using ⟨not_and.mp hdouble, not_and.mp hsingle⟩

theorem unquote_eq_iff {written value : Text} :
    unquote written = value ↔ Unquotes written value := by
  constructor
  · rintro rfl
    by_cases h : ∃ q, IsQuote q ∧ written.head? = some q ∧ written.getLast? = some q
    · obtain ⟨q, hq, hhead, hlast⟩ := h
      rw [unquote_of_quotes hq hhead hlast]
      obtain ⟨rest, rfl⟩ := List.head?_eq_some_iff.mp hhead
      rcases List.eq_nil_or_concat' rest with rfl | ⟨value, c, rfl⟩
      · exact .lone hq
      · rw [← List.cons_append, List.getLast?_concat] at hlast
        obtain rfl := Option.some.inj hlast
        rw [inner_quoted]
        exact .quoted hq value
    · have hbare : ∀ q, IsQuote q → ¬ (written.head? = some q ∧ written.getLast? = some q) :=
        fun q hq hboth => h ⟨q, hq, hboth⟩
      rw [unquote_of_bare hbare]
      exact .bare hbare
  · intro h
    cases h with
    | quoted hq value =>
      rw [unquote_of_quotes hq rfl List.getLast?_concat]
      exact inner_quoted _ value
    | lone hq =>
      rw [unquote_of_quotes hq rfl rfl]
      rfl
    | bare h => exact unquote_of_bare h

/-! ## Assignments -/

/-- The line assigns the value to the key. Without the blanks at its ends it is no comment, in front
of its first `=` stands the key, which is not empty, and behind it stands what is written for the
value, each with blanks around it or none. -/
structure Assigns (line key value : Text) : Prop where
  noComment : (trim line).head? ≠ some '#'
  parts : ∃ left right, trim line = left ++ '=' :: right ∧ '=' ∉ left ∧ trim left = key ∧
    Unquotes (trim right) value
  named : key ≠ []

theorem assignment?_eq_some_iff {line key value : Text} :
    assignment? line = some (key, value) ↔ Assigns line key value := by
  simp only [assignment?]
  constructor
  · intro h
    split at h
    · cases h
    · rename_i hcomment
      obtain ⟨⟨left, right⟩, hcut, hparts⟩ := Option.bind_eq_some_iff.mp h
      obtain ⟨hline, hleft⟩ := cutFirst?_eq_some_iff.mp hcut
      split at hparts
      · cases hparts
      · rename_i hnamed
        obtain ⟨rfl, hvalue⟩ := Prod.mk.inj (Option.some.inj hparts)
        exact ⟨hcomment, ⟨left, right, hline, hleft, rfl, unquote_eq_iff.mp hvalue⟩, hnamed⟩
  · rintro ⟨hcomment, ⟨left, right, hline, hleft, rfl, hvalue⟩, hnamed⟩
    rw [if_neg hcomment, cutFirst?_eq_some_iff.mpr ⟨hline, hleft⟩, Option.bind_some, if_neg hnamed,
      unquote_eq_iff.mpr hvalue]

/-- What lines assign, in order. A line that assigns nothing is skipped. -/
inductive Assigned : List Text → List (Text × Text) → Prop where
  | nil : Assigned [] []
  | skip {line : Text} {lines : List Text} {assigned : List (Text × Text)}
    (hline : ∀ key value, ¬ Assigns line key value) (hlines : Assigned lines assigned) :
    Assigned (line :: lines) assigned
  | assign {line key value : Text} {lines : List Text} {assigned : List (Text × Text)}
    (hline : Assigns line key value) (hlines : Assigned lines assigned) :
    Assigned (line :: lines) ((key, value) :: assigned)

theorem assigned_filterMap (lines : List Text) : Assigned lines (lines.filterMap assignment?) := by
  induction lines with
  | nil => exact .nil
  | cons line lines ih =>
    cases hline : assignment? line with
    | none =>
      rw [List.filterMap_cons_none hline]
      refine .skip (fun key value h => ?_) ih
      rw [assignment?_eq_some_iff.mpr h] at hline
      cases hline
    | some assignment =>
      rw [List.filterMap_cons_some hline]
      exact .assign (assignment?_eq_some_iff.mp hline) ih

/-! ## Lines -/

/-- The lines of a text, without their line ends. -/
def splitLines : Text → List Text
  | [] => []
  | '\r' :: '\n' :: rest => [] :: splitLines rest
  | c :: rest =>
    if isLineEnd c then [] :: splitLines rest
    else match splitLines rest with
      | [] => [[c]]
      | first :: others => (c :: first) :: others

section

variable {α : Type} {f : Text → Option α} (hf : f [] = none)

include hf

/-- A first line that is missing may as well be empty. -/
theorem filterMap_eq_of_tail {lines others : List Text}
    (htail : lines.tail.filterMap f = others.filterMap f) :
    lines.filterMap f = (lines.headD [] :: others).filterMap f := by
  cases lines with
  | nil => exact htail.trans (List.filterMap_cons_none hf).symm
  | cons line lines =>
    rw [List.tail_cons] at htail
    rw [List.headD_cons, List.filterMap_cons, List.filterMap_cons, htail]

/-- Cutting at each character that ends a line gives the same first line, and behind it the same
lines but for empty ones. -/
theorem splitLines_cut (t : Text) :
    (splitLines t).headD [] = (cut isLineEnd t).1 ∧
      (splitLines t).tail.filterMap f = (cut isLineEnd t).2.filterMap f := by
  fun_induction splitLines t with
  | case1 => exact ⟨rfl, rfl⟩
  | case2 rest ih =>
    have hcut : cut isLineEnd ('\r' :: '\n' :: rest) =
        ([], [] :: (cut isLineEnd rest).1 :: (cut isLineEnd rest).2) := by
      rw [cut_cons_of_pos _ (by decide), cut_cons_of_pos _ (by decide)]
    rw [hcut]
    refine ⟨rfl, ?_⟩
    rw [List.tail_cons, List.filterMap_cons_none hf, ← ih.1]
    exact filterMap_eq_of_tail hf ih.2
  | case3 c rest hc hend ih =>
    rw [cut_cons_of_pos rest hend, ← ih.1]
    exact ⟨rfl, filterMap_eq_of_tail hf ih.2⟩
  | case4 c rest hc hend hnone ih =>
    rw [cut_cons_of_neg rest (by simpa using hend), ← ih.1, ← ih.2, hnone]
    exact ⟨rfl, rfl⟩
  | case5 c rest hc hend first others hsome ih =>
    rw [cut_cons_of_neg rest (by simpa using hend), ← ih.1, ← ih.2, hsome]
    exact ⟨rfl, rfl⟩

theorem filterMap_splitLines (t : Text) :
    (splitLines t).filterMap f = (pieces isLineEnd t).filterMap f := by
  obtain ⟨hfirst, hothers⟩ := splitLines_cut hf t
  rw [filterMap_eq_of_tail hf hothers, hfirst]
  rfl

end

/-- **A settings file assigns what its lines assign.** -/
theorem assigned_assignments (content : Text) :
    Assigned (splitLines content) (assignments content) := by
  have hlines : assignments content = (splitLines content).filterMap assignment? :=
    (filterMap_splitLines rfl content).symm
  rw [hlines]
  exact assigned_filterMap (splitLines content)

end Widgetry.Settings
