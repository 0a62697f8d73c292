import Widgetry.Proofs.Closing
import Widgetry.Proofs.Lines
import Widgetry.Proofs.Outcome
import Widgetry.Proofs.Separators
import Widgetry.Streaming.Quiz
import Widgetry.Widget.Parts

/-!
# The id of a question that is arriving

The id of a question is the second token of its line. As soon as a third token has begun, the second
one is finished, and neither what arrives behind it nor what closes the line can change it
(`getElem?_tokenize_complete`). But where the choices are no array yet, a placeholder stands for the
question, and its id is the second word of the raw line. So a question keeps its id exactly if the
second word is the second token whenever a placeholder is shown (`keepsId_iff`), which holds for an id
without marks between spaces, and does not for an id in quotes (`not_keepsId_quoted`).
-/

namespace Widgetry

open Text Scan Outcome

/-! ## Finished tokens -/

/-- At most the last token of a text is not finished. -/
theorem length_tokenize_le (t : Text) : (tokenize t).length ≤ (scan t).tokens.length + 1 := by
  rw [tokenize, List.length_reverse]
  rcases flush_cases (scan t) with ⟨-, hflush⟩ | ⟨-, hflush⟩
  · rw [hflush]
    exact Nat.le_succ _
  · rw [hflush]
    exact le_rfl

/-- **A token with another one behind it stays** when the text goes on and is closed. -/
theorem getElem?_tokenize_complete {t : Text} {i : Nat} (hi : i + 1 < (tokenize t).length)
    (more : Text) : (tokenize (complete (t ++ more)))[i]? = (tokenize t)[i]? := by
  have hle := length_tokenize_le t
  rw [complete, List.append_assoc, getElem?_tokenize_append (by omega)]

namespace Text

/-- A blank parts the words. -/
theorem words_append_cons {c : Char} (hc : isBlank c = true) (a b : Text) :
    words (a ++ c :: b) = words a ++ words b := by
  simp only [words, pieces, cut_append_separator hc, ← List.filter_append, List.cons_append]

/-- A text without blanks is one word. -/
theorem words_of_ink {w : Text} (hne : w ≠ []) (hw : ∀ c ∈ w, isBlank c = false) :
    words w = [w] := by
  simp [words, pieces, cut_of_not_mem hw, hne]

theorem words_blank_append {b : Text} (hb : Blank b) (t : Text) : words (b ++ t) = words t := by
  induction b with
  | nil => rfl
  | cons c b ih =>
    have hsplit := words_append_cons (hb c List.mem_cons_self) [] (b ++ t)
    rw [List.nil_append] at hsplit
    rw [List.cons_append, hsplit, ih fun d hd => hb d (List.mem_cons_of_mem c hd)]
    rfl

end Text

namespace Streaming

/-! ## The id that is shown -/

/-- A placeholder is shown for the line: its choices are no array. -/
def ShowsPlaceholder (line : Text) : Prop :=
  (tokenize (complete line)).head? = some QuestionKind.choice.text ∧
    ∃ choices ∈ (tokenize (complete line))[4]?, ArrayLiteral.parse? choices = none

theorem id_of_previewChoiceQuestion (index : Int) (line : Text) (parts : List Text) (points : Int) :
    (∃ choices ∈ parts[3]?, ArrayLiteral.parse? choices = none) ∧
        previewChoiceQuestion index line parts points = placeholderQuestion index line ∨
      (¬ ∃ choices ∈ parts[3]?, ArrayLiteral.parse? choices = none) ∧
        (previewChoiceQuestion index line parts points).id =
          parts[0]?.getD (pendingQuestionId index) := by
  unfold previewChoiceQuestion
  cases hpart : parts[3]? with
  | none => exact Or.inr ⟨by simp, rfl⟩
  | some token =>
    cases hchoices : ArrayLiteral.parse? token with
    | none => exact Or.inl ⟨⟨token, rfl, hchoices⟩, by simp [hchoices]⟩
    | some choices => exact Or.inr ⟨by simp [hchoices], by simp [hchoices]⟩

/-- **The id of a question**: the second token of the completed line, unless a placeholder is
shown. -/
theorem id_of_previewQuestion {index : Int} {line : Text} {q : Question}
    (h : previewQuestion index line = .ok (some q)) :
    (ShowsPlaceholder line ∧ q.id = (placeholderQuestion index line).id) ∨
      (¬ ShowsPlaceholder line ∧
        q.id = (tokenize (complete line))[1]?.getD (pendingQuestionId index)) := by
  unfold previewQuestion at h
  unfold ShowsPlaceholder
  cases htokens : tokenize (complete line) with
  | nil => exact absurd h (by simp [htokens])
  | cons word parts =>
    rw [htokens] at h
    dsimp only at h
    cases hkind : QuestionKind.ofText? word with
    | none => exact absurd h (by simp [hkind])
    | some kind =>
      rw [hkind] at h
      obtain ⟨points, -, h⟩ := bind_eq_ok_iff.mp h
      have hword := QuestionKind.ofText?_eq_some_iff.mp hkind
      cases kind with
      | choice =>
        rw [← Option.some.inj (pure_eq_ok_iff.mp h)]
        rcases id_of_previewChoiceQuestion index line parts points with
          ⟨hchoices, hq⟩ | ⟨hchoices, hq⟩
        · exact Or.inl ⟨⟨congrArg some hword, hchoices⟩, congrArg ChoiceQuestion.id hq⟩
        · exact Or.inr ⟨fun hshown => hchoices hshown.2, hq⟩
      | written =>
        rw [← Option.some.inj (pure_eq_ok_iff.mp h)]
        refine Or.inr ⟨?_, rfl⟩
        rintro ⟨hhead, -⟩
        rw [List.head?_cons, hword] at hhead
        exact absurd hhead (by decide)

/-! ## Ids between spaces -/

/-- The id stands between spaces behind the word for a question, and has no marks and no blanks. -/
def SpacedId (id line : Text) : Prop :=
  ∃ (kind : QuestionKind) (gap rest : Text),
    line = kind.text ++ ' ' :: (gap ++ (id ++ ' ' :: rest)) ∧ (∀ c ∈ gap, c = ' ') ∧ id ≠ [] ∧
      ∀ c ∈ id, IsPlain c ∧ isBlank c = false

theorem spacedId_append {id line : Text} (h : SpacedId id line) (more : Text) :
    SpacedId id (line ++ more) := by
  obtain ⟨kind, gap, rest, rfl, hgap⟩ := h
  exact ⟨kind, gap, rest ++ more, by simp, hgap⟩

theorem tokenize_spaces_append {gap : Text} (hgap : ∀ c ∈ gap, c = ' ') (t : Text) :
    tokenize (gap ++ t) = tokenize t := by
  induction gap with
  | nil => rfl
  | cons c gap ih =>
    obtain rfl := hgap c List.mem_cons_self
    have hsplit := tokenize_append_separator (a := []) rfl (Or.inl rfl) (gap ++ t)
    rw [List.nil_append] at hsplit
    rw [List.cons_append, hsplit, ih fun d hd => hgap d (List.mem_cons_of_mem _ hd)]
    rfl

/-- **Such an id is the second token and the second word** of the line. -/
theorem second_of_spacedId {id line : Text} (h : SpacedId id line) :
    (tokenize line)[1]? = some id ∧ (words line)[1]? = some id := by
  obtain ⟨kind, gap, rest, rfl, hgap, hne, hid⟩ := h
  have hink : ∀ c ∈ id, isBlank c = false := fun c hc => (hid c hc).2
  have hscan : scan id = ⟨[], id.reverse, .plain⟩ := scan_of_isPlain fun c hc => (hid c hc).1
  have htoken : tokenize id = [id] := by
    rw [tokenize, hscan, flush_of_ink hne hink]
    rfl
  have hplain : (scan id).span = .plain := by rw [hscan]
  have hblank : Blank gap := by
    intro c hc
    rw [hgap c hc]
    rfl
  have hkind : (scan kind.text).span = .plain ∧ tokenize kind.text = [kind.text] ∧
      words kind.text = [kind.text] := by
    cases kind <;> decide
  constructor
  · rw [tokenize_append_separator hkind.1 (Or.inl rfl), hkind.2.1, tokenize_spaces_append hgap,
      tokenize_append_separator hplain (Or.inl rfl), htoken]
    rfl
  · rw [words_append_cons rfl, hkind.2.2, words_blank_append hblank, words_append_cons rfl,
      words_of_ink hne hink]
    rfl

/-! ## The id of a longer line -/

section Continued

variable {index : Int} {line more : Text} {q q' : Question}

/-- Both questions have the second token of the shorter line as their id. -/
def KeepsId (line : Text) (q q' : Question) : Prop :=
  ∃ id, (tokenize line)[1]? = some id ∧ q.id = id ∧ q'.id = id

/-- The id of a placeholder, if one is shown for `longer`, is the second token of `line`. -/
def PlaceholderFits (index : Int) (line longer : Text) : Prop :=
  ShowsPlaceholder longer →
    (tokenize line)[1]? = some (placeholderQuestion index longer).id

/-- Where the second token of the completed line is that of a shorter one, the question has it as
its id unless a placeholder has another one. -/
theorem id_eq_iff {id longer : Text} (h : previewQuestion index longer = .ok (some q))
    (hline : (tokenize line)[1]? = some id)
    (hlonger : (tokenize (complete longer))[1]? = (tokenize line)[1]?) :
    q.id = id ↔ PlaceholderFits index line longer := by
  rw [PlaceholderFits, hline, Option.some_inj]
  rcases id_of_previewQuestion h with ⟨hshown, hq⟩ | ⟨hshown, hq⟩
  · rw [hq]
    exact ⟨fun h _ => h.symm, fun h => (h hshown).symm⟩
  · rw [hq, hlonger, hline]
    exact iff_of_true rfl fun h => absurd h hshown

theorem placeholderFits_of_spacedId {id longer : Text} (hline : (tokenize line)[1]? = some id)
    (h : SpacedId id longer) : PlaceholderFits index line longer := by
  intro _
  rw [hline, placeholderQuestion, (second_of_spacedId h).2]
  rfl

/-- **Exactly when a question keeps its id.** If a third token has begun, the id is the second token
as long as no placeholder is shown, and a placeholder must have it as the second word of its raw
line. An id between spaces, without quotes, opening brackets and other blanks, is both. -/
theorem keepsId_iff (hthree : 3 ≤ (tokenize line).length)
    (hq : previewQuestion index line = .ok (some q))
    (hq' : previewQuestion index (line ++ more) = .ok (some q')) :
    (KeepsId line q q' ↔
        PlaceholderFits index line line ∧ PlaceholderFits index line (line ++ more)) ∧
      ((∃ id, SpacedId id line) → KeepsId line q q') := by
  obtain ⟨id, hid⟩ : ∃ id, (tokenize line)[1]? = some id :=
    ⟨_, List.getElem?_eq_getElem (by omega)⟩
  have hshort := getElem?_tokenize_complete (i := 1) (by omega) ([] : Text) (t := line)
  rw [List.append_nil] at hshort
  have hlong := getElem?_tokenize_complete (i := 1) (by omega) more (t := line)
  have hiff : KeepsId line q q' ↔
      PlaceholderFits index line line ∧ PlaceholderFits index line (line ++ more) := by
    rw [← id_eq_iff hq hid hshort, ← id_eq_iff hq' hid hlong]
    constructor
    · rintro ⟨id', hid', hkept⟩
      rw [hid] at hid'
      cases hid'
      exact hkept
    · exact fun hkept => ⟨id, hid, hkept⟩
  refine ⟨hiff, ?_⟩
  rintro ⟨id', hspaced⟩
  have hsecond := (second_of_spacedId hspaced).1
  exact hiff.mpr ⟨placeholderFits_of_spacedId hsecond hspaced,
    placeholderFits_of_spacedId hsecond (spacedId_append hspaced more)⟩

end Continued

/-- A question with its points, and then with choices that are no array, for which a placeholder is
shown. -/
theorem keepsId_placeholder :
    let line := "mcq  q7 \"A [or\" 10".toList
    let q : Question := .choice ⟨"q7".toList, "A [or".toList, 10, [], none, some true⟩
    let q' : Question := .choice (placeholderQuestion 3 (line ++ " A".toList))
    3 ≤ (tokenize line).length ∧ previewQuestion 3 line = .ok (some q) ∧
      previewQuestion 3 (line ++ " A".toList) = .ok (some q') ∧ KeepsId line q q' := by
  intro line q q'
  have hthree : 3 ≤ (tokenize line).length := by decide
  have hq : previewQuestion 3 line = .ok (some q) := by decide +kernel
  have hq' : previewQuestion 3 (line ++ " A".toList) = .ok (some q') := by decide +kernel
  have hid : IsWord "q7".toList := by decide
  have hspaced : SpacedId "q7".toList line :=
    ⟨.choice, [' '], "\"A [or\" 10".toList, rfl, by simp, by simp, hid⟩
  exact ⟨hthree, hq, hq', (keepsId_iff hthree hq hq').2 ⟨_, hspaced⟩⟩

/-- **A question need not keep its id.** The id is in quotes, and while the choices are no array yet,
the placeholder has the first half of the id, with the quote in front of it. -/
theorem not_keepsId_quoted :
    let line := "mcq \"a b\" Q 1".toList
    (∃ q q', previewQuestion 1 line = .ok (some q) ∧
        previewQuestion 1 (line ++ " x".toList) = .ok (some q') ∧
        q.id = "a b".toList ∧ q'.id = "\"a".toList) ∧
      ¬ ∀ (line more : Text) (index : Int) (q q' : Question), '\n' ∉ more →
          3 ≤ (tokenize line).length → previewQuestion index line = .ok (some q) →
          previewQuestion index (line ++ more) = .ok (some q') → KeepsId line q q' := by
  intro line
  let q : Question := .choice ⟨"a b".toList, "Q".toList, 1, [], none, some true⟩
  let q' : Question := .choice (placeholderQuestion 1 (line ++ " x".toList))
  have hq : previewQuestion 1 line = .ok (some q) := by decide +kernel
  have hq' : previewQuestion 1 (line ++ " x".toList) = .ok (some q') := by decide +kernel
  refine ⟨⟨q, q', hq, hq', rfl, rfl⟩, ?_⟩
  intro h
  obtain ⟨id, -, rfl, hid⟩ := h line " x".toList 1 q q' (by decide) (by decide) hq hq'
  exact absurd hid (by decide)

end Streaming

end Widgetry
