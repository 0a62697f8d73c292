import Widgetry.Proofs.Lines
import Widgetry.Proofs.QuizSettings
import Widgetry.Proofs.RoundTrip
import Widgetry.Writer.Block

/-!
# Blocks that have been written

The lines of a written block are found again if none of them holds a line feed (`lines_unlines`). A
line of written parts holds none if its parts do not, and it is closed, so the first token of the
block is that of its first line and the block goes to the grammar of its first word
(`parse_unlines`). A written setting is read as its key, in lower case, and its value
(`readSetting?_setting`).
-/

namespace Widgetry

open Text Scan

namespace Writer

/-! ## The lines of a block -/

theorem lines_unlines {first : Text} {others : List Text} (h : ∀ l ∈ first :: others, '\n' ∉ l) :
    lines (unlines (first :: others)) = (first, others) :=
  cut_intercalate_of_not_mem h

/-- A text is its lines. -/
theorem unlines_lines (t : Text) : unlines ((lines t).1 :: (lines t).2) = t :=
  intercalate_pieces '\n' t

/-- Lines that are added stand below a line feed. -/
theorem unlines_append_cons (first : Text) (before : List Text) (next : Text) (after : List Text) :
    unlines (first :: (before ++ next :: after)) =
      unlines (first :: before) ++ '\n' :: unlines (next :: after) := by
  simp only [unlines]
  induction before generalizing first with
  | nil => simp [List.intercalate_cons_cons]
  | cons line before ih =>
    rw [List.cons_append, List.intercalate_cons_cons, ih, List.intercalate_cons_cons]
    simp only [List.append_assoc]

theorem unlines_append_singleton (first : Text) (others : List Text) (last : Text) :
    unlines (first :: (others ++ [last])) = unlines (first :: others) ++ '\n' :: last := by
  rw [unlines_append_cons]
  simp [unlines]

theorem exists_unlines_eq_append (first : Text) (others : List Text) :
    ∃ below, unlines (first :: others) = first ++ below := by
  cases others with
  | nil => exact ⟨[], by simp [unlines]⟩
  | cons next others =>
    exact ⟨'\n' :: unlines (next :: others), by simp [unlines, List.intercalate_cons_cons]⟩

/-- A block begins with its first line and ends with its last one. -/
theorem exists_unlines_ends (first : Text) (mid : List Text) (last : Text) :
    ∃ m, unlines (first :: (mid ++ [last])) = first ++ m ++ last := by
  obtain ⟨below, hbelow⟩ := exists_unlines_eq_append first mid
  exact ⟨below ++ ['\n'], by rw [unlines_append_singleton, hbelow]; simp⟩

theorem scalar_unlines {first : Text} {others : List Text} (hfirst : Scalar first)
    (hlast : ∀ l ∈ others.getLast?, Scalar l) : Scalar (unlines (first :: others)) := by
  rcases List.eq_nil_or_concat' others with rfl | ⟨mid, last, rfl⟩
  · simpa [unlines] using hfirst
  · obtain ⟨m, hm⟩ := exists_unlines_ends first mid last
    rw [hm]
    exact scalar_append hfirst m (hlast last (by simp))

/-! ## Lines of parts -/

/-- The line has these tokens, is closed, and holds no line feed. -/
structure LineReadAs (line : Text) (tokens : List Text) : Prop where
  scalar : Scalar line
  closes : Closes line
  tokens : tokenize line = tokens
  oneLine : '\n' ∉ line

theorem ReadAs.lineReadAs {part token : Text} (h : ReadAs part token) (hline : '\n' ∉ part) :
    LineReadAs part [token] :=
  ⟨h.scalar, h.closes, h.tokens, hline⟩

theorem LineReadAs.readAs {part token : Text} (h : LineReadAs part [token]) : ReadAs part token :=
  ⟨h.scalar, h.closes, h.tokens⟩

/-- A text that double quotes keep together on one line. -/
structure OneLine (t : Text) : Prop extends Quotable t where
  line : '\n' ∉ t

instance (t : Text) : Decidable (OneLine t) :=
  decidable_of_iff (Quotable t ∧ '\n' ∉ t) ⟨fun h => ⟨h.1, h.2⟩, fun h => ⟨h.toQuotable, h.line⟩⟩

theorem lineReadAs_quoted {t : Text} (ht : OneLine t) : LineReadAs (quoted t) [t] :=
  (readAs_quoted ht.toQuotable).lineReadAs (not_mem_quoted (by decide) ht.line)

theorem lineReadAs_array {xs : List Text} (h : ∀ x ∈ xs, OneLine x ∧ '[' ∉ x ∧ ']' ∉ x) :
    LineReadAs (array xs) [array xs] := by
  have hinner : '\n' ∉ [' '].intercalate (xs.map quoted) :=
    not_mem_inner_array (by decide) (by decide) fun x hx => (h x hx).1.line
  exact (readAs_array fun x hx => (h x hx).2).lineReadAs (by simp [array, hinner])

theorem not_mem_ofInt {c : Char} (hminus : c ≠ '-') (hc : isDigit c = false) (n : Int) :
    c ∉ Text.ofInt n := by
  have hdigits : ∀ m, c ∉ Text.ofNat m := by
    intro m hmem
    have hdigit := isDigit_of_mem_ofNat c hmem
    rw [hc] at hdigit
    exact absurd hdigit (by simp)
  cases n with
  | ofNat n => exact hdigits n
  | negSucc n => exact List.not_mem_cons_of_ne_of_not_mem hminus (hdigits _)

theorem lineReadAs_ofInt (n : Int) : LineReadAs (Text.ofInt n) [Text.ofInt n] :=
  (readAs_ofInt n).lineReadAs (not_mem_ofInt (by decide) (by decide) n)

theorem rel_lineReadAs_quoted {part : Option Text} (h : ∀ t ∈ part, OneLine t) :
    Option.Rel (fun part token => LineReadAs part [token]) (part.map quoted) part := by
  cases part with
  | none => exact .none
  | some t => exact .some (lineReadAs_quoted (h t rfl))

/-- **A line of parts** has their tokens, and no line feed if they have none. -/
theorem lineReadAs_spaced {word : Text} {parts tokens : List (Option Text)}
    (hword : LineReadAs word [word])
    (h : List.Forall₂ (Option.Rel fun part token => LineReadAs part [token]) parts tokens) :
    LineReadAs (spaced word parts) (word :: tokens.filterMap id) := by
  have hread : List.Forall₂ (Option.Rel ReadAs) parts tokens := by
    refine h.imp ?_
    rintro _ _ (hpart | -)
    · exact .some hpart.readAs
    · exact .none
  have hparts : List.Forall₂ (fun part token => LineReadAs part [token])
      (word :: parts.filterMap id) (word :: tokens.filterMap id) :=
    .cons hword (List.rel_filterMap (fun _ _ hrel => hrel) h)
  refine ⟨scalar_spaced hword.readAs hread,
    closes_intercalate (closes_of_mem_parts hword.readAs hread),
    tokenize_spaced hword.readAs hread, not_mem_intercalate (by decide) ?_⟩
  intro part hpart
  obtain ⟨token, -, hline⟩ := Outcome.exists_of_mem_forall₂ hparts hpart
  exact hline.oneLine

theorem lineReadAs_keyword (k : Keyword) : LineReadAs k.text [k.text] :=
  (readAs_keyword k).lineReadAs fun h => (k.isPlain_of_mem_text _ h).1.2.2.2 rfl

/-! ## Dispatch -/

theorem head_tokenize_unlines {first word : Text} (hclosed : Closes first)
    (hhead : (tokenize first).head? = some word) (others : List Text) :
    (tokenize (unlines (first :: others))).head? = some word := by
  cases others with
  | nil => simpa [unlines] using hhead
  | cons next others =>
    rw [unlines, List.intercalate_cons_cons, List.append_assoc, List.singleton_append,
      tokenize_append_separator hclosed (Or.inr rfl), List.head?_append, hhead]
    rfl

/-- **A written block goes to the grammar of its first word**, and its lines are those that have
been written. Settings may end with a blank, but they are not the last lines of the block. -/
theorem parse_unlines {k : Keyword} {first : Text} {tokens settings others : List Text}
    (hfirst : LineReadAs first (k.text :: tokens)) (hsettings : ∀ l ∈ settings, '\n' ∉ l)
    (hothers : ∀ l ∈ others, Scalar l ∧ '\n' ∉ l) (hne : others ≠ []) :
    (∃ parts, Grammar.parse (unlines (first :: (settings ++ others))) =
        Grammar.readBlock Grammar.parseLine k parts (unlines (first :: (settings ++ others)))) ∧
      lines (unlines (first :: (settings ++ others))) = (first, settings ++ others) := by
  have hlast : ∀ l ∈ (settings ++ others).getLast?, Scalar l := by
    intro l hl
    rw [List.getLast?_append_of_ne_nil _ hne] at hl
    exact (hothers l (List.mem_of_mem_getLast? hl)).1
  have htrim := trim_eq_self (scalar_unlines hfirst.scalar hlast).trimmed
  have hhead := head_tokenize_unlines hfirst.closes (by rw [hfirst.tokens]; rfl)
    (settings ++ others)
  constructor
  · have hparse := Grammar.parse_of_head (k := k) (by rw [htrim]; exact hhead)
    rw [htrim] at hparse
    exact hparse
  · apply lines_unlines
    intro l hl
    rcases List.mem_cons.mp hl with rfl | hl
    · exact hfirst.oneLine
    · rcases List.mem_append.mp hl with hl | hl
      · exact hsettings l hl
      · exact (hothers l hl).2

/-! ## Settings -/

theorem trimmed_flag (b : Bool) : Trimmed (flag b) := (readAs_flag b).scalar.trimmed

theorem trimmed_ofInt (n : Int) : Trimmed (Text.ofInt n) := (readAs_ofInt n).scalar.trimmed

/-- **A written setting is read** as its key and its value, which may be empty. -/
theorem readSetting?_setting {key : String} (hkey : Scalar key.toList ∧ ':' ∉ key.toList)
    {value : Text} (hvalue : Trimmed value) :
    Grammar.readSetting? (trim (setting key value)) = some (lower key.toList, value) := by
  obtain ⟨hkey, hcolon⟩ := hkey
  -- the space behind the colon is kept only if something comes after it
  obtain ⟨after, htrim, hafter⟩ : ∃ after,
      trim (setting key value) = key.toList ++ ':' :: after ∧ trim after = value := by
    by_cases hnil : value = []
    · subst hnil
      have hink : Scalar [':'] := by decide
      have hend : Trimmed (key.toList ++ [':']) := by
        simpa using (scalar_append hkey [] hink).trimmed
      refine ⟨[], ?_, rfl⟩
      simpa [setting] using trim_frame (a := []) (b := [' ']) (by simp [Blank]) (by decide) hend
    · have hwhole : Scalar (key.toList ++ ": ".toList ++ value) :=
        scalar_append hkey _ ⟨hnil, hvalue⟩
      refine ⟨' ' :: value, by simpa [setting] using trim_eq_self hwhole.trimmed, ?_⟩
      simpa using trim_frame (a := [' ']) (b := []) (by decide) (by simp [Blank]) hvalue
  rw [Grammar.readSetting?, htrim, cutFirst?_append_cons hcolon, Option.map_some]
  dsimp only
  rw [hafter, trim_eq_self hkey.trimmed]

theorem not_mem_setting {c : Char} {key : String} (hkey : c ∉ key.toList ++ ": ".toList)
    {value : Text} (hvalue : c ∉ value) : c ∉ setting key value := by
  rw [setting, List.mem_append, not_or]
  exact ⟨hkey, hvalue⟩

end Writer

end Widgetry
