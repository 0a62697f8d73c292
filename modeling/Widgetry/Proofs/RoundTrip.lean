import Widgetry.Proofs.LineGrammar
import Widgetry.Proofs.Verdict
import Widgetry.Proofs.WrittenIntegers
import Widgetry.Proofs.WrittenLines
import Widgetry.Widget.Parts

/-!
# Lines that are written and read back

A widget of one line can be read back from its written line if the line has a place for everything
that is set, and everything survives where it is put: texts in double quotes, items in an array,
integers as binary64 numbers (`Writable`). For each of the seven kinds the parts are matched with
their tokens, and the grammar of the kind makes the widget of them (`parseBlock_line`).
-/

namespace Widgetry

open Text Outcome Scan

/-! ## What can be written -/

/-- Does the keyword open a block of one line? -/
def Keyword.hasOneLine : Keyword → Bool
  | form | chart _ | quiz => false
  | _ => true

namespace Widget

/-- The label, if the line of the widget has no place for it. -/
def unplacedLabel : Widget → Option Text
  | buttonGroup w | select w => w.label
  | selectMulti w => w.label
  | slider w => w.label
  | _ => none

/-- The texts that stand where an array could stand. -/
def alternatives : Widget → List Text
  | selectMulti w => w.initial.toList.flatMap Selection.scalars
  | shortAnswer w => w.correctAnswer.toList
  | _ => []

end Widget

namespace Writer

/-- The widget can be read back from its written line. -/
structure Writable (w : Widget) : Prop where
  keyword : w.keyword.hasOneLine = true
  id : w.id?.isSome = true
  label : w.unplacedLabel = none
  leading : Leading (parts w)
  scalars : ∀ t ∈ w.scalars, Quotable t
  items : ∀ ts ∈ w.lists, ∀ t ∈ ts, Quotable t ∧ '[' ∉ t ∧ ']' ∉ t
  alternatives : ∀ t ∈ w.alternatives, Grammar.opensArray t = false
  answers : ∀ a, w = .shortAnswer a → a.correctAnswer = none ∨ a.correctAnswers = none
  numbers : ∀ n ∈ w.numbers, ∃ k : Int, n = .int k ∧ k.natAbs ≤ 2 ^ 53

/-! ## Parts and tokens -/

theorem readAs_ofInt (n : Int) : ReadAs (Text.ofInt n) (Text.ofInt n) := by
  cases n with
  | ofNat n =>
    apply readAs_word (ofNat_ne_nil n)
    intro c hc
    obtain ⟨hplain, hblank⟩ := isPlain_of_mem_ofNat c hc
    exact ⟨hplain, hblank⟩
  | negSucc n =>
    apply readAs_word (List.cons_ne_nil _ _)
    intro c hc
    rcases List.mem_cons.mp hc with rfl | hc
    · decide
    · obtain ⟨hplain, hblank⟩ := isPlain_of_mem_ofNat c hc
      exact ⟨hplain, hblank⟩

theorem readAs_flag (b : Bool) : ReadAs (flag b) (flag b) := by
  have hall : (flag b).all (fun c => decide (IsPlain c ∧ isBlank c = false)) = true := by
    cases b <;> decide
  apply readAs_word
  · cases b <;> decide
  · intro c hc
    exact of_decide_eq_true (List.all_eq_true.mp hall c hc)

theorem isTrue_flag (b : Bool) : isTrue (flag b) = b := by
  cases b <;> rfl

/-- An array whose items can be read back. -/
theorem readAs_array_of_items {xs : List Text} (h : ∀ x ∈ xs, Quotable x ∧ '[' ∉ x ∧ ']' ∉ x) :
    ReadAs (array xs) (array xs) ∧ ArrayLiteral.parse (array xs) = .ok xs :=
  ⟨readAs_array fun x hx => (h x hx).2, ArrayLiteral.parse_array_of_quotable fun x hx => (h x hx).1⟩

theorem forall₂_quoted {parts : List (Option Text)} (h : ∀ t ∈ parts.filterMap id, Quotable t) :
    List.Forall₂ (Option.Rel ReadAs) (parts.map (·.map quoted)) parts := by
  rw [List.forall₂_map_left_iff, List.forall₂_same]
  intro part hpart
  exact rel_quoted fun t ht => h t (List.mem_filterMap.mpr ⟨part, hpart, ht⟩)

/-! ## The seven kinds -/

open Grammar

/-- The tokens of the widget's parts make the widget. -/
def ReadsBack (w : Widget) : Prop :=
  ∃ tokens, List.Forall₂ (Option.Rel ReadAs) (parts w) tokens ∧
    ∀ child source, readBlock child w.keyword (tokens.filterMap id) source = .ok w

theorem readsBack_textInput {w : TextInput} (h : Writable (.textInput w)) :
    ReadsBack (.textInput w) := by
  obtain ⟨name, label, placeholder, initial⟩ := w
  obtain ⟨name, rfl⟩ := Option.isSome_iff_exists.mp h.id
  have hrel := forall₂_quoted h.scalars
  have hrest : Leading [label, placeholder, initial] :=
    (List.pairwise_cons.mp (leading_of_rel hrel h.leading)).2
  have hread : readTextInput ([some name, label, placeholder, initial].filterMap id) =
      .ok ⟨some name, label, placeholder, initial⟩ := by
    refine readTextInput_eq_ok_iff.mpr ⟨name, _, rfl, ?_⟩
    rw [getElem?_filterMap hrest, getElem?_filterMap hrest, getElem?_filterMap hrest]
    rfl
  exact ⟨_, hrel, fun _ _ => congrArg (Except.map Widget.textInput) hread⟩

/-- Button groups and selection lists are written alike. -/
theorem readsBack_choiceInput {name : Text} {choices : List Text} {initial : Option Text}
    (hname : Quotable name) (hchoices : ∀ x ∈ choices, Quotable x ∧ '[' ∉ x ∧ ']' ∉ x)
    (hinitial : ∀ t ∈ initial, Quotable t) :
    ReadsBack (.buttonGroup ⟨name, none, choices, initial⟩) ∧
      ReadsBack (.select ⟨name, none, choices, initial⟩) := by
  obtain ⟨harray, hparse⟩ := readAs_array_of_items hchoices
  have hrel : List.Forall₂ (Option.Rel ReadAs)
      [some (quoted name), some (array choices), initial.map quoted]
      [some name, some (array choices), initial] :=
    .cons (.some (readAs_quoted hname)) (.cons (.some harray) (.cons (rel_quoted hinitial) .nil))
  have hread : ∀ k, readChoiceInput k ([some name, some (array choices), initial].filterMap id) =
      .ok ⟨name, none, choices, initial⟩ := by
    intro k
    refine readChoiceInput_eq_ok_iff.mpr ⟨name, array choices, initial.toList, choices, ?_, hparse, ?_⟩
    · cases initial <;> rfl
    · cases initial <;> rfl
  exact ⟨⟨_, hrel, fun _ _ => congrArg (Except.map Widget.buttonGroup) (hread .buttonGroup)⟩,
    ⟨_, hrel, fun _ _ => congrArg (Except.map Widget.select) (hread .select)⟩⟩

theorem readsBack_selectMulti {w : MultiSelect} (h : Writable (.selectMulti w)) :
    ReadsBack (.selectMulti w) := by
  obtain ⟨name, label, choices, initial⟩ := w
  obtain ⟨name, rfl⟩ := Option.isSome_iff_exists.mp h.id
  obtain rfl : label = none := h.label
  have hname : Quotable name := h.scalars name (by simp [Widget.scalars])
  obtain ⟨harray, hparse⟩ := readAs_array_of_items (h.items choices (by simp [Widget.lists]))
  cases initial with
  | none =>
    have hrel : List.Forall₂ (Option.Rel ReadAs)
        [some (quoted name), some (array choices), none] [some name, some (array choices), none] :=
      .cons (.some (readAs_quoted hname)) (.cons (.some harray) (.cons .none .nil))
    have hread := readMultiSelect_eq_ok_iff.mpr
      ⟨name, array choices, [], choices, none, rfl, hparse, Or.inl ⟨rfl, rfl⟩, rfl⟩
    exact ⟨_, hrel, fun _ _ => congrArg (Except.map Widget.selectMulti) hread⟩
  | some s =>
    -- the selection is one choice or an array, and the token tells which
    have hselection : ∃ token, ReadAs (selection s) token ∧ readSelection token = .ok s := by
      cases s with
      | one choice =>
        have hquotable : Quotable choice :=
          h.scalars choice (by simp [Widget.scalars, Selection.scalars])
        have hopens : opensArray choice = false :=
          h.alternatives choice (by simp [Widget.alternatives, Selection.scalars])
        exact ⟨choice, readAs_quoted hquotable, readSelection_eq_ok_iff.mpr (Or.inr ⟨hopens, rfl⟩)⟩
      | many several =>
        obtain ⟨hseveral, hparse⟩ :=
          readAs_array_of_items (h.items several (by simp [Widget.lists, Selection.lists]))
        exact ⟨array several, hseveral,
          readSelection_eq_ok_iff.mpr (Or.inl ⟨rfl, several, hparse, rfl⟩)⟩
    obtain ⟨token, htoken, hselected⟩ := hselection
    have hrel : List.Forall₂ (Option.Rel ReadAs)
        [some (quoted name), some (array choices), some (selection s)]
        [some name, some (array choices), some token] :=
      .cons (.some (readAs_quoted hname)) (.cons (.some harray) (.cons (.some htoken) .nil))
    have hread := readMultiSelect_eq_ok_iff.mpr ⟨name, array choices, [token], choices, some s, rfl,
      hparse, Or.inr ⟨token, [], s, rfl, hselected, rfl⟩, rfl⟩
    exact ⟨_, hrel, fun _ _ => congrArg (Except.map Widget.selectMulti) hread⟩

/-- A number that can be written is read back. -/
theorem readAs_number {n : Number} (h : ∃ k : Int, n = .int k ∧ k.natAbs ≤ 2 ^ 53) :
    ReadAs (number n) (number n) ∧ Number.read? (number n) = some n := by
  obtain ⟨k, rfl, hk⟩ := h
  exact ⟨readAs_ofInt k, Number.read?_ofInt hk⟩

theorem readsBack_slider {w : Slider} (h : Writable (.slider w)) : ReadsBack (.slider w) := by
  obtain ⟨name, label, min, max, step, initial⟩ := w
  obtain ⟨name, rfl⟩ := Option.isSome_iff_exists.mp h.id
  obtain rfl : label = none := h.label
  have hname : Quotable name := h.scalars name (by simp [Widget.scalars])
  obtain ⟨hmin, hreadMin⟩ := readAs_number (h.numbers min (by simp [Widget.numbers]))
  obtain ⟨hmax, hreadMax⟩ := readAs_number (h.numbers max (by simp [Widget.numbers]))
  obtain ⟨hstep, hreadStep⟩ := readAs_number (h.numbers step (by simp [Widget.numbers]))
  have hinitial : ∀ n ∈ initial, ReadAs (number n) (number n) ∧ Number.read? (number n) = some n :=
    fun n hn => readAs_number (h.numbers n (by simp [Widget.numbers, Option.mem_def.mp hn]))
  have hrel : List.Forall₂ (Option.Rel ReadAs)
      (parts (.slider ⟨some name, none, min, max, step, initial⟩))
      [some name, some (number min), some (number max), some (number step), initial.map number] :=
    .cons (.some (readAs_quoted hname)) (.cons (.some hmin) (.cons (.some hmax)
      (.cons (.some hstep) (.cons (rel_map fun n hn => (hinitial n hn).1) .nil))))
  have hread : readSlider ([some name, some (number min), some (number max), some (number step),
      initial.map number].filterMap id) = .ok ⟨some name, none, min, max, step, initial⟩ := by
    refine readSlider_eq_ok_iff.mpr ⟨name, _, _, _, (initial.map number).toList, min, max, step, ?_,
      hreadMin, hreadMax, hreadStep, ?_⟩
    · cases initial <;> rfl
    · cases initial with
      | none => rfl
      | some n => simp [(hinitial n rfl).2]
  exact ⟨_, hrel, fun _ _ => congrArg (Except.map Widget.slider) hread⟩

theorem readsBack_multipleChoice {w : MultipleChoice} (h : Writable (.multipleChoice w)) :
    ReadsBack (.multipleChoice w) := by
  obtain ⟨name, question, choices, answer, feedback⟩ := w
  obtain ⟨name, rfl⟩ := Option.isSome_iff_exists.mp h.id
  have hname : Quotable name := h.scalars name (by simp [Widget.scalars])
  have hquestion : Quotable question := h.scalars question (by simp [Widget.scalars])
  have hanswer : ∀ t ∈ answer, Quotable t :=
    fun t ht => h.scalars t (by simp [Widget.scalars, Option.mem_def.mp ht])
  obtain ⟨harray, hparse⟩ := readAs_array_of_items (h.items choices (by simp [Widget.lists]))
  have hrel : List.Forall₂ (Option.Rel ReadAs)
      (parts (.multipleChoice ⟨some name, question, choices, answer, feedback⟩))
      [some name, some question, some (array choices), answer, feedback.map flag] :=
    .cons (.some (readAs_quoted hname)) (.cons (.some (readAs_quoted hquestion))
      (.cons (.some harray) (.cons (rel_quoted hanswer) (.cons (rel_map fun b _ => readAs_flag b)
        .nil))))
  have hlead := leading_of_rel hrel h.leading
  -- the first three parts are always set
  have hrest : Leading [answer, feedback.map flag] := by
    have hthird := (List.pairwise_cons.mp (List.pairwise_cons.mp hlead).2).2
    exact (List.pairwise_cons.mp hthird).2
  have hread : readMultipleChoice ([some name, some question, some (array choices), answer,
      feedback.map flag].filterMap id) = .ok ⟨some name, question, choices, answer, feedback⟩ := by
    refine readMultipleChoice_eq_ok_iff.mpr ⟨name, question, _, _, choices, rfl, hparse, ?_⟩
    rw [getElem?_filterMap hrest, getElem?_filterMap hrest]
    cases feedback with
    | none => rfl
    | some b => simp [isTrue_flag]
  exact ⟨_, hrel, fun _ _ => congrArg (Except.map Widget.multipleChoice) hread⟩

theorem readsBack_shortAnswer {w : ShortAnswer} (h : Writable (.shortAnswer w)) :
    ReadsBack (.shortAnswer w) := by
  obtain ⟨name, question, placeholder, single, several, feedback⟩ := w
  obtain ⟨name, rfl⟩ := Option.isSome_iff_exists.mp h.id
  have hname : Quotable name := h.scalars name (by simp [Widget.scalars])
  have hquestion : Quotable question := h.scalars question (by simp [Widget.scalars])
  have hplaceholder : ∀ t ∈ placeholder, Quotable t :=
    fun t ht => h.scalars t (by simp [Widget.scalars, Option.mem_def.mp ht])
  -- the answer is one text or an array, and the token tells which
  have hanswer : ∃ token, Option.Rel ReadAs
      (answer ⟨some name, question, placeholder, single, several, feedback⟩) token ∧
      AnswersOf token single several := by
    cases single with
    | some t =>
      obtain rfl : several = none := (h.answers _ rfl).resolve_left (by simp)
      have hquotable : Quotable t := h.scalars t (by simp [Widget.scalars])
      have hopens : opensArray t = false := h.alternatives t (by simp [Widget.alternatives])
      exact ⟨some t, .some (readAs_quoted hquotable), Or.inr (Or.inr ⟨t, rfl, hopens, rfl, rfl⟩)⟩
    | none =>
      cases several with
      | none => exact ⟨none, .none, Or.inl ⟨rfl, rfl, rfl⟩⟩
      | some xs =>
        obtain ⟨harray, hparse⟩ := readAs_array_of_items (h.items xs (by simp [Widget.lists]))
        exact ⟨some (array xs), .some harray,
          Or.inr (Or.inl ⟨array xs, xs, rfl, rfl, hparse, rfl, rfl⟩)⟩
  obtain ⟨token, htoken, hanswers⟩ := hanswer
  have hrel : List.Forall₂ (Option.Rel ReadAs)
      (parts (.shortAnswer ⟨some name, question, placeholder, single, several, feedback⟩))
      [some name, some question, placeholder, token, feedback.map flag] :=
    .cons (.some (readAs_quoted hname)) (.cons (.some (readAs_quoted hquestion))
      (.cons (rel_quoted hplaceholder) (.cons htoken (.cons (rel_map fun b _ => readAs_flag b)
        .nil))))
  have hlead := leading_of_rel hrel h.leading
  have hrest : Leading [placeholder, token, feedback.map flag] :=
    (List.pairwise_cons.mp (List.pairwise_cons.mp hlead).2).2
  have hread : readShortAnswer ([some name, some question, placeholder, token,
      feedback.map flag].filterMap id) =
      .ok ⟨some name, question, placeholder, single, several, feedback⟩ := by
    refine readShortAnswer_eq_ok_iff.mpr ⟨name, question, _, single, several, rfl, ?_, ?_⟩
    · rw [getElem?_filterMap hrest]
      exact hanswers
    · rw [getElem?_filterMap hrest, getElem?_filterMap hrest]
      cases feedback with
      | none => rfl
      | some b => simp [isTrue_flag]
  exact ⟨_, hrel, fun _ _ => congrArg (Except.map Widget.shortAnswer) hread⟩

/-! ## Round trip -/

theorem readsBack_of_writable {w : Widget} (h : Writable w) : ReadsBack w := by
  have hchoice : ∀ v : ChoiceInput, v.id.isSome = true → v.label = none →
      (∀ t ∈ [v.id, v.label, v.initial].filterMap id, Quotable t) →
      (∀ ts ∈ [v.choices], ∀ t ∈ ts, Quotable t ∧ '[' ∉ t ∧ ']' ∉ t) →
      ReadsBack (.buttonGroup v) ∧ ReadsBack (.select v) := by
    rintro ⟨name, label, choices, initial⟩ hid hlabel hscalars hitems
    obtain ⟨name, rfl⟩ := Option.isSome_iff_exists.mp hid
    obtain rfl : label = none := hlabel
    exact readsBack_choiceInput (hscalars name (by simp)) (hitems choices (by simp))
      fun t ht => hscalars t (by simp [Option.mem_def.mp ht])
  cases w with
  | textInput w => exact readsBack_textInput h
  | buttonGroup w => exact (hchoice w h.id h.label h.scalars h.items).1
  | select w => exact (hchoice w h.id h.label h.scalars h.items).2
  | selectMulti w => exact readsBack_selectMulti h
  | slider w => exact readsBack_slider h
  | multipleChoice w => exact readsBack_multipleChoice h
  | shortAnswer w => exact readsBack_shortAnswer h
  | _ => exact absurd h.keyword (by simp [Widget.keyword, Keyword.hasOneLine])

/-- **A written line is read back.** -/
theorem parseBlock_line {w : Widget} (h : Writable w) :
    parseBlock (line w) = ⟨true, some w, none⟩ := by
  obtain ⟨tokens, hrel, hread⟩ := readsBack_of_writable h
  apply Streaming.parseBlock_eq
  rw [parse, line, parseWith_spaced hrel, hread]

/-- A question with spaces, brackets, apostrophes, a comma and a line feed in its texts, and a list
of answers. -/
theorem parseBlock_line_shortAnswer :
    let w : Widget := .shortAnswer ⟨some "q 1".toList, "Who\x27s [there],\nreally?".toList,
      some "its name".toList, none, some ["it\x27s".toList, "a, b".toList, "c".toList], some false⟩
    line w = "short-answer-question \"q 1\" \"Who\x27s [there],\nreally?\" ".toList ++
        "\"its name\" [\"it\x27s\" \"a, b\" \"c\"] false".toList ∧
      Writable w ∧ parseBlock (line w) = ⟨true, some w, none⟩ := by
  intro w
  have hw : Writable w := by
    refine ⟨rfl, rfl, rfl, by decide, by decide, by decide, by decide, ?_,
      by simp [w, Widget.numbers]⟩
    intro a ha
    obtain rfl := Widget.shortAnswer.inj ha
    exact Or.inl rfl
  exact ⟨by decide, hw, parseBlock_line hw⟩

end Writer

end Widgetry
