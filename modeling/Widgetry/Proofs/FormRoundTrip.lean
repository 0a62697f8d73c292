import Widgetry.Proofs.WellFormed
import Widgetry.Proofs.WrittenBlocks

/-!
# Forms that are written and read back

The keyword of a form is the first token of the whole block, the fields are read line by line. The
first line of a written form is closed, so no line below it can change the keyword, and every line
gives its own field or none (`parse_formWithLines`). Trimming the block may take blank lines from its
end and blanks from its last line, but no field (`lineField?_trimEnd`).

So a form keeps the fields that have been written on lines of their own, whatever stands on the
lines between them (`parseBlock_formWithLines`).
-/

namespace Widgetry

open Text

/-! ## One line -/

namespace Grammar

/-- The field that a line below the first one of a form describes, if it describes one. -/
def lineField? (line : Text) : Option Widget :=
  (fieldText? line).bind fun field => (parse field).toOption

theorem fieldText?_eq_some_iff {line field : Text} :
    fieldText? line = some field ↔ line = ' ' :: ' ' :: field := by
  unfold fieldText?
  split
  · simp
  · rename_i hindent
    simpa using hindent field

theorem lineField?_eq_some_iff {line : Text} {w : Widget} :
    lineField? line = some w ↔ ∃ field, line = ' ' :: ' ' :: field ∧ parse field = .ok w := by
  simp only [lineField?, Option.bind_eq_some_iff, fieldText?_eq_some_iff]
  refine exists_congr fun field => and_congr_right fun _ => ?_
  cases parse field <;> simp [Except.toOption]

theorem parse_of_blank {t : Text} (h : Blank t) : parse t = .error .emptyInput := by
  rw [← parse_trim, trim_eq_nil_iff.mpr h]
  rfl

/-- Blanks at the end of a block are not read. -/
theorem parse_append_of_blank {b : Text} (hb : Blank b) (t : Text) : parse (t ++ b) = parse t := by
  rw [← parse_trim, trim_append_of_blank hb, parse_trim]

theorem lineField?_of_blank {line : Text} (h : Blank line) : lineField? line = none := by
  rw [Option.eq_none_iff_forall_ne_some]
  intro w hw
  obtain ⟨field, rfl, hparse⟩ := lineField?_eq_some_iff.mp hw
  rw [parse_of_blank fun c hc => h c (by simp [hc])] at hparse
  exact absurd hparse (by simp)

/-- **Blanks at the end of a line make no field and lose none.** -/
theorem lineField?_trimEnd (line : Text) : lineField? (trimEnd line) = lineField? line := by
  ext w
  rw [lineField?_eq_some_iff, lineField?_eq_some_iff]
  constructor
  · rintro ⟨field, hfield, hparse⟩
    obtain ⟨b, hb, hline⟩ := exists_trimEnd_append line
    exact ⟨field ++ b, by rw [hline, hfield]; rfl, by rw [parse_append_of_blank hb, hparse]⟩
  · rintro ⟨field, rfl, hparse⟩
    have hink : ¬ Blank field := by
      intro hblank
      rw [parse_of_blank hblank] at hparse
      exact absurd hparse (by simp)
    obtain ⟨b, hb, hfield⟩ := exists_trimEnd_append field
    refine ⟨trimEnd field, trimEnd_append_of_ink hink [' ', ' '], ?_⟩
    rw [← parse_append_of_blank hb, ← hfield, hparse]

/-- The fields of a form are those of its lines. -/
theorem readForm_eq {source name : Text} {rest : List Text}
    (h : (tokenize (lines source).1).tail = name :: rest) :
    readForm parseLine source =
      .ok (.form name rest[0]? ((lines source).2.filterMap lineField?)) := by
  -- on a line of its own a field is read like any block
  have hchild : readForm parseLine source = readForm parse source := by
    apply readForm_congr
    intro line hline field hfield
    exact parseWith_eq_of_line _ _ (not_mem_of_fieldText? hfield (not_mem_of_mem_lines hline))
  rw [hchild, readForm_eq_ok_iff]
  exact ⟨name, rest, h, rfl⟩

end Grammar

namespace Writer

open Grammar

/-! ## Any lines -/

theorem trim_unlines {first : Text} (hfirst : Scalar first) (others : List Text) :
    trim (unlines (first :: others)) = trimEnd (unlines (first :: others)) := by
  obtain ⟨below, hbelow⟩ := exists_unlines_eq_append first others
  have hfront : ∀ c ∈ (unlines (first :: others)).head?, isBlank c = false := by
    intro c hc
    apply hfirst.trimmed.front c
    rwa [hbelow, List.head?_append_of_ne_nil _ hfirst.ne_nil] at hc
  rw [trim, trimStart_eq_self hfront]

/-- **Trimming a block may cut lines off, but no fields.** -/
theorem exists_trim_unlines {first : Text} (hfirst : Scalar first) {ls : List Text}
    (h : ∀ l ∈ ls, '\n' ∉ l) :
    ∃ kept, trim (unlines (first :: ls)) = unlines (first :: kept) ∧
      (∀ l ∈ kept, '\n' ∉ l) ∧ kept.filterMap lineField? = ls.filterMap lineField? := by
  rw [trim_unlines hfirst]
  -- from the end: a blank line goes away, and the first one that is not blank ends the block
  induction ls using List.reverseRecOn with
  | nil => exact ⟨[], by simp [unlines, trimEnd_eq_self hfirst.trimmed.back], by simp, rfl⟩
  | append_singleton ls last ih =>
    rw [unlines_append_singleton, List.filterMap_append]
    by_cases hblank : Blank last
    · obtain ⟨kept, htrim, hkept, hfields⟩ := ih fun l hl => h l (by simp [hl])
      have hend : Blank ('\n' :: last) := by
        simpa [Blank] using ⟨by decide, hblank⟩
      refine ⟨kept, ?_, hkept, ?_⟩
      · rw [trimEnd_append_of_blank hend, htrim]
      · simp [hfields, lineField?_of_blank hblank]
    · have hend : trimEnd ('\n' :: last) = '\n' :: trimEnd last :=
        trimEnd_append_of_ink hblank ['\n']
      refine ⟨ls ++ [trimEnd last], ?_, ?_, ?_⟩
      · rw [unlines_append_singleton, trimEnd_append_of_ink ?_, hend]
        exact fun hblank' => hblank fun c hc => hblank' c (by simp [hc])
      · intro l hl
        rcases List.mem_append.mp hl with hl | hl
        · exact h l (by simp [hl])
        · obtain rfl := List.mem_singleton.mp hl
          exact fun hmem => h last (by simp) (mem_of_mem_trimEnd hmem)
      · simp only [List.filterMap_append, List.filterMap_cons, List.filterMap_nil,
          lineField?_trimEnd]

section Forms

variable {name : Text} {label : Option Text} (hname : OneLine name)
  (hlabel : ∀ t ∈ label, OneLine t)
include hname hlabel

theorem lineReadAs_form : LineReadAs (line (.form (some name) label []))
    (Keyword.form.text :: [some name, label].filterMap id) :=
  lineReadAs_spaced (lineReadAs_keyword .form)
    (.cons (.some (lineReadAs_quoted hname)) (.cons (rel_lineReadAs_quoted hlabel) .nil))

/-- **A form is read line by line**: it has the fields of its lines, one after the other, whatever
quotes and brackets the lines leave open. -/
theorem parse_formWithLines {ls : List Text} (h : ∀ l ∈ ls, '\n' ∉ l) :
    parse (formWithLines (some name) label ls) =
      .ok (.form (some name) label (ls.filterMap lineField?)) := by
  have hfirst := lineReadAs_form hname hlabel
  obtain ⟨kept, htrim, hkept, hfields⟩ := exists_trim_unlines hfirst.scalar h
  rw [← formWithLines, ← formWithLines] at htrim
  have hlines : lines (formWithLines (some name) label kept) =
      (line (.form (some name) label []), kept) := by
    apply lines_unlines
    simpa using ⟨hfirst.oneLine, hkept⟩
  have hheader : (tokenize (lines (formWithLines (some name) label kept)).1).tail =
      name :: label.toList := by
    rw [hlines, hfirst.tokens]
    cases label <;> rfl
  -- the first line is closed, so the first token of the block is its first word
  have hhead : (tokenize (formWithLines (some name) label kept)).head? = some Keyword.form.text :=
    head_tokenize_unlines hfirst.closes (by rw [hfirst.tokens]; rfl) kept
  obtain ⟨parts, hparse⟩ := parse_of_head (k := .form) (by rw [htrim]; exact hhead)
  rw [hparse, htrim, readBlock, readForm_eq hheader, hlines, hfields]
  cases label <;> rfl

end Forms

/-! ## Written lines -/

/-- What stands on the line of a widget comes from its parts. -/
theorem mem_parts {w : Widget} {part : Text} (h : some part ∈ parts w) :
    (∃ t ∈ w.scalars, part = quoted t) ∨ (∃ xs ∈ w.lists, part = array xs) ∨
      (∃ n ∈ w.numbers, part = number n) ∨ ∃ b, part = flag b := by
  cases w with
  | selectMulti w =>
    obtain ⟨name, label, choices, initial⟩ := w
    simp only [parts, List.mem_cons, List.not_mem_nil, or_false, Option.some_eq_map_iff,
      Option.some.injEq] at h
    rcases h with ⟨t, rfl, rfl⟩ | rfl | ⟨s, rfl, rfl⟩
    · exact Or.inl ⟨t, by simp [Widget.scalars], rfl⟩
    · exact Or.inr (Or.inl ⟨choices, by simp [Widget.lists], rfl⟩)
    · cases s with
      | one choice => exact Or.inl ⟨choice, by simp [Widget.scalars, Selection.scalars], rfl⟩
      | many several =>
        exact Or.inr (Or.inl ⟨several, by simp [Widget.lists, Selection.lists], rfl⟩)
  | shortAnswer w =>
    obtain ⟨name, question, placeholder, single, several, feedback⟩ := w
    simp only [parts, answer, List.mem_cons, List.not_mem_nil, or_false, Option.some_eq_map_iff,
      Option.some.injEq] at h
    rcases h with ⟨t, rfl, rfl⟩ | rfl | ⟨t, rfl, rfl⟩ | h | ⟨b, -, rfl⟩
    · exact Or.inl ⟨t, by simp [Widget.scalars], rfl⟩
    · exact Or.inl ⟨question, by simp [Widget.scalars], rfl⟩
    · exact Or.inl ⟨t, by simp [Widget.scalars], rfl⟩
    · rcases (Option.orElse_eq_some _ _ _).mp h.symm with h | ⟨-, h⟩
      · obtain ⟨t, rfl, rfl⟩ := Option.map_eq_some_iff.mp h
        exact Or.inl ⟨t, by simp [Widget.scalars], rfl⟩
      · obtain ⟨xs, rfl, rfl⟩ := Option.map_eq_some_iff.mp h
        exact Or.inr (Or.inl ⟨xs, by simp [Widget.lists], rfl⟩)
    · exact Or.inr (Or.inr (Or.inr ⟨b, rfl⟩))
  | _ =>
    simp only [parts, List.map_cons, List.map_nil, List.mem_cons, List.not_mem_nil, or_false,
      Option.some_eq_map_iff, Option.some.injEq] at h
    simp only [Widget.scalars, Widget.lists, Widget.numbers, List.mem_cons, List.not_mem_nil,
      or_false, List.mem_filterMap, id_eq, exists_eq_right]
    grind

/-- The widget can be read back from an indented line: a widget of one line without line feeds, or a
form without fields. -/
inductive FitsLine : Widget → Prop
  | line {w : Widget} (writable : Writable w) (scalars : ∀ t ∈ w.scalars, '\n' ∉ t)
      (items : ∀ ts ∈ w.lists, ∀ t ∈ ts, '\n' ∉ t) : FitsLine w
  | form {name : Text} {label : Option Text} (name_oneLine : OneLine name)
      (label_oneLine : ∀ t ∈ label, OneLine t) : FitsLine (.form (some name) label [])

/-- A line below the first one of a form: a field that has been written, or a line that is no field,
because it is not indented or because the rest is refused. -/
inductive FormLine : Text → Option Widget → Prop
  | written {w : Widget} (fits : FitsLine w) : FormLine (formField w) (some w)
  | skipped {line : Text} (oneLine : '\n' ∉ line)
      (refused : ∀ t ∈ fieldText? line, (parseBlock t).success = false) : FormLine line none

theorem not_mem_line_of_writable {w : Widget} (h : Writable w)
    (hscalars : ∀ t ∈ w.scalars, '\n' ∉ t) (hitems : ∀ ts ∈ w.lists, ∀ t ∈ ts, '\n' ∉ t) :
    '\n' ∉ line w := by
  apply not_mem_intercalate (by decide)
  intro part hpart
  rcases List.mem_cons.mp hpart with rfl | hpart
  · exact (lineReadAs_keyword w.keyword).oneLine
  · have hset : some part ∈ parts w := by simpa using hpart
    rcases mem_parts hset with ⟨t, ht, rfl⟩ | ⟨xs, hxs, rfl⟩ | ⟨n, hn, rfl⟩ | ⟨b, rfl⟩
    · exact not_mem_quoted (by decide) (hscalars t ht)
    · have hinner := not_mem_inner_array (c := '\n') (by decide) (by decide) (hitems xs hxs)
      simp [array, hinner]
    · obtain ⟨k, rfl, -⟩ := h.numbers n hn
      exact not_mem_ofInt (by decide) (by decide) k
    · cases b <;> decide

theorem parse_line_of_fits {w : Widget} (h : FitsLine w) :
    parse (line w) = .ok w ∧ '\n' ∉ line w := by
  cases h with
  | line hw hscalars hitems =>
    obtain ⟨tokens, hrel, hread⟩ := readsBack_of_writable hw
    exact ⟨by rw [parse, line, parseWith_spaced hrel, hread],
      not_mem_line_of_writable hw hscalars hitems⟩
  | form hname hlabel =>
    -- the first line of a form is a form with no lines below
    have hparse := parse_formWithLines hname hlabel (List.forall_mem_nil ('\n' ∉ ·))
    exact ⟨by simpa [formWithLines, unlines] using hparse, (lineReadAs_form hname hlabel).oneLine⟩

/-- Every line of a form gives the field that it is meant to give. -/
theorem lineField?_of_formLine {l : Text} {field : Option Widget} (h : FormLine l field) :
    lineField? l = field ∧ '\n' ∉ l := by
  cases h with
  | written hfits =>
    obtain ⟨hparse, hline⟩ := parse_line_of_fits hfits
    exact ⟨lineField?_eq_some_iff.mpr ⟨_, rfl, hparse⟩, by simpa [formField] using hline⟩
  | skipped hline hrefused =>
    refine ⟨?_, hline⟩
    rw [Option.eq_none_iff_forall_ne_some]
    intro w hw
    obtain ⟨t, rfl, hparse⟩ := lineField?_eq_some_iff.mp hw
    have hsuccess := hrefused t rfl
    rw [parseBlock, hparse] at hsuccess
    exact absurd hsuccess (by simp [ParseResult.ofOutcome])

/-! ## Round trip -/

/-- **A form has exactly the fields that have been written**, in order, whatever else stands on the
lines between them. -/
theorem parseBlock_formWithLines {name : Text} {label : Option Text} {ls : List Text}
    {fields : List (Option Widget)} (hname : OneLine name) (hlabel : ∀ t ∈ label, OneLine t)
    (h : List.Forall₂ FormLine ls fields) :
    parseBlock (formWithLines (some name) label ls) =
      ⟨true, some (.form (some name) label (fields.filterMap id)), none⟩ := by
  have hlines : ∀ l ∈ ls, '\n' ∉ l := by
    intro l hl
    obtain ⟨field, -, hline⟩ := Outcome.exists_of_mem_forall₂ h hl
    exact (lineField?_of_formLine hline).2
  have hfields : ls.filterMap lineField? = fields.filterMap id := by
    induction h with
    | nil => rfl
    | cons hline _ ih =>
      simp only [List.filterMap_cons, (lineField?_of_formLine hline).1,
        ih fun l hl => hlines l (by simp [hl]), id_eq]
  apply Streaming.parseBlock_eq
  rw [parse_formWithLines hname hlabel hlines, hfields]

/-- Between two fields stand a line with an open quote and an open bracket, a slider without a
maximum, and a blank line at the end. -/
theorem parseBlock_formWithLines_two_fields :
    let select : Widget := .select ⟨some "s".toList, none, ["a".toList, "b, c".toList], none⟩
    let form : Widget := .form (some "g".toList) (some "Go on".toList) []
    let ls := ["  select \"s\" [\"a\" \"b, c\"]".toList, "say \"what [ever".toList,
      "  slider \"v\" 1 [".toList, "  form \"g\" \"Go on\"".toList, "   ".toList]
    List.Forall₂ FormLine ls [some select, none, none, some form, none] ∧
      parseBlock (formWithLines (some "f".toList) none ls) =
        ⟨true, some (.form (some "f".toList) none [select, form]), none⟩ := by
  intro select form ls
  have hselect : FitsLine select :=
    .line ⟨rfl, rfl, rfl, by decide, by decide, by decide, by decide, by simp [select],
      by simp [select, Widget.numbers]⟩ (by decide) (by decide)
  have hform : FitsLine form := .form (by decide) (by decide)
  have hlines : List.Forall₂ FormLine ls [some select, none, none, some form, none] :=
    .cons (.written hselect) (.cons (.skipped (by decide) (by decide +kernel))
      (.cons (.skipped (by decide) (by decide +kernel)) (.cons (.written hform)
        (.cons (.skipped (by decide) (by decide +kernel)) .nil))))
  exact ⟨hlines, parseBlock_formWithLines (by decide) (by decide) hlines⟩

end Writer

end Widgetry
