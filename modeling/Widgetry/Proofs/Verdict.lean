import Mathlib.Logic.ExistsUnique
import Widgetry.Proofs.Closing
import Widgetry.Proofs.Dispatch
import Widgetry.Streaming.Stream

/-!
# What a stream answers

A stream answers in one of five ways, and the text decides which (`stream_cases`). The answers tell
themselves apart: every answer has exactly one of five shapes, and what its shape says about type,
widget and flags is true of the text (`verdict_of_stream`). In particular a preview always shows a
widget of the type that was detected, also where that widget was read from a text that the stream
itself has completed.
-/

namespace Widgetry

open Text Scan Outcome

namespace Streaming

/-! ## All that a stream can answer -/

theorem finished?_eq_some_iff {source : Text} {w : Widget} :
    finished? source = some w ↔
      (OpenSpan.ofText source).Closed ∧ Grammar.parse source = .ok w := by
  rw [finished?, OpenSpan.Closed]
  cases (OpenSpan.ofText source).bracketOpen <;> cases (OpenSpan.ofText source).quoteOpen <;>
    cases Grammar.parse source <;> simp [Except.toOption]

/-- **All that a stream can answer**, by the first word of the trimmed text. -/
theorem stream_cases (t : Text) :
    (trim t = [] ∧ stream t = .ok (refused ParseError.emptyInput.message)) ∨
      (trim t ≠ [] ∧ Keyword.ofText? (Keyword.leadingWord (trim t)) = none ∧
        ((Keyword.canGrowFrom (Keyword.leadingWord (trim t)) = true ∧ stream t = .ok undecided) ∨
          (Keyword.canGrowFrom (Keyword.leadingWord (trim t)) = false ∧
            stream t =
              .ok (refused (ParseError.unknownType (Keyword.leadingWord (trim t))).message)))) ∨
      ∃ k : Keyword, Keyword.leadingWord (trim t) = k.text ∧
        ((∃ w, finished? (trim t) = some w ∧ stream t = .ok (completeResult k.text w)) ∨
          (finished? (trim t) = none ∧
            stream t = preview k.text (trim t) (pendingOf (trim t)))) := by
  by_cases hnil : trim t = []
  · exact Or.inl ⟨hnil, by simp [stream, hnil]⟩
  · cases hk : Keyword.ofText? (Keyword.leadingWord (trim t)) with
    | none =>
      refine Or.inr (Or.inl ⟨hnil, rfl, ?_⟩)
      cases hgrow : Keyword.canGrowFrom (Keyword.leadingWord (trim t)) with
      | true => exact Or.inl ⟨rfl, by simp [stream, hnil, hk, hgrow]⟩
      | false => exact Or.inr ⟨rfl, by simp [stream, hnil, hk, hgrow]⟩
    | some k =>
      have hword := Keyword.ofText?_eq_some_iff.mp hk
      refine Or.inr (Or.inr ⟨k, hword, ?_⟩)
      cases hfin : finished? (trim t) with
      | some w => exact Or.inl ⟨w, rfl, by simp [stream, hnil, hword, hfin]⟩
      | none => exact Or.inr ⟨rfl, by simp [stream, hnil, hword, hfin]⟩

/-! ## Previews -/

/-- Completing a text with an open bracket does not change its first word, since the bracket stands
behind that word. -/
theorem leadingWord_trim_complete {source : Text} {k : Keyword}
    (hk : Keyword.leadingWord source = k.text)
    (hopen : (OpenSpan.ofText source).bracketOpen = true) :
    Keyword.leadingWord (trim (complete source)) = k.text := by
  have hne : Keyword.leadingWord source ≠ [] := by rw [hk]; exact Keyword.text_ne_nil k
  have hfront := Keyword.front_of_leadingWord_ne_nil hne
  rcases Keyword.leadingWord_cases source with hword | ⟨c, rest, hc, hsource⟩
  · rw [← hword, hk, OpenSpan.ofText_keyword] at hopen
    exact absurd hopen (by decide)
  · have hmem : c ∈ source := by rw [hsource]; simp
    have hfront' : ∀ d ∈ (complete source).head?, isBlank d = false := by
      intro d hd
      apply hfront d
      rw [complete, List.head?_append] at hd
      cases hs : source.head? with
      | none => rw [List.head?_eq_none_iff.mp hs] at hmem; exact absurd hmem (by simp)
      | some e => rw [hs] at hd; exact hd
    rw [Keyword.leadingWord_trim_of_front hfront', complete,
      Keyword.leadingWord_append_of_blank hmem hc, hk]

/-- The preview of a block of one line shows a widget of the block's type. -/
theorem previewLine_eq {source : Text} {k : Keyword} (hk : Keyword.leadingWord source = k.text) :
    ∃ shown pending, previewLine k.text source (pendingOf source) =
      unfinished k.text shown pending ∧ shown.typeName = k.text := by
  simp only [previewLine]
  split
  · rename_i w hw
    refine ⟨.widget w, _, rfl, ?_⟩
    split at hw
    · rename_i hopen
      have hparse : Grammar.parse (complete source) = .ok w := by
        cases h : Grammar.parse (complete source) with
        | error e => rw [h] at hw; exact absurd hw (by simp [Except.toOption])
        | ok w' => rw [h] at hw; exact congrArg _ (Option.some.inj hw)
      have hcomplete := leadingWord_trim_complete hk (by simpa [pendingOf] using hopen)
      have hkeyword : w.keyword = k := by
        apply Grammar.keyword_of_parse _ hparse
        rw [hcomplete, Keyword.ofText?_text]
      rw [Preview.typeName, hkeyword]
    · exact absurd hw (by simp)
  · exact ⟨.stub (stub k.text source), _, rfl, rfl⟩

/-- **A preview is unfinished and shows its type.** -/
theorem preview_eq_ok {source : Text} {k : Keyword} {r : StreamingResult}
    (hk : Keyword.leadingWord source = k.text)
    (h : preview k.text source (pendingOf source) = .ok r) :
    ∃ shown pending, r = unfinished k.text shown pending ∧ shown.typeName = k.text := by
  rw [preview, Keyword.ofText?_text] at h
  cases k with
  | quiz =>
    obtain ⟨p, -, rfl⟩ := map_eq_ok_iff.mp h
    exact ⟨.quiz p, _, rfl, rfl⟩
  | form => exact ⟨.form (previewForm source), _, (Except.ok.inj h).symm, rfl⟩
  | chart kind => exact ⟨.chart (previewChart kind source), _, (Except.ok.inj h).symm, rfl⟩
  | _ =>
    obtain ⟨shown, pending, hline, htype⟩ := previewLine_eq hk
    exact ⟨shown, pending, (Except.ok.inj h).symm.trans hline, htype⟩

/-! ## Answers -/

/-- **All answers**, by the first word of the trimmed text. -/
theorem answer_cases {t : Text} {r : StreamingResult} (h : stream t = .ok r) :
    (trim t = [] ∧ r = refused ParseError.emptyInput.message) ∨
      (trim t ≠ [] ∧ Keyword.ofText? (Keyword.leadingWord (trim t)) = none ∧
        ((Keyword.canGrowFrom (Keyword.leadingWord (trim t)) = true ∧ r = undecided) ∨
          (Keyword.canGrowFrom (Keyword.leadingWord (trim t)) = false ∧
            r = refused (ParseError.unknownType (Keyword.leadingWord (trim t))).message))) ∨
      ∃ k : Keyword, Keyword.leadingWord (trim t) = k.text ∧
        ((∃ w, finished? (trim t) = some w ∧ r = completeResult k.text w) ∨
          ∃ shown pending, r = unfinished k.text shown pending ∧ shown.typeName = k.text) := by
  rcases stream_cases t with
    ⟨hnil, hs⟩ | ⟨hne, hk, ⟨hgrow, hs⟩ | ⟨hgrow, hs⟩⟩ | ⟨k, hk, ⟨w, hw, hs⟩ | ⟨-, hs⟩⟩
  · exact Or.inl ⟨hnil, Except.ok.inj (h.symm.trans hs)⟩
  · exact Or.inr (Or.inl ⟨hne, hk, Or.inl ⟨hgrow, Except.ok.inj (h.symm.trans hs)⟩⟩)
  · exact Or.inr (Or.inl ⟨hne, hk, Or.inr ⟨hgrow, Except.ok.inj (h.symm.trans hs)⟩⟩)
  · exact Or.inr (Or.inr ⟨k, hk, Or.inl ⟨w, hw, Except.ok.inj (h.symm.trans hs)⟩⟩)
  · exact Or.inr (Or.inr ⟨k, hk, Or.inr (preview_eq_ok hk (hs.symm.trans h))⟩)

/-! ## The five shapes -/

/-- The shapes of an answer. -/
inductive Verdict where
  | empty
  | unknown
  | undecided
  | complete
  | arriving
deriving Repr, DecidableEq

namespace Verdict

/-- What an answer to `t` of a given shape holds. -/
def Holds (t : Text) (r : StreamingResult) : Verdict → Prop
  | empty => trim t = [] ∧ r = ⟨false, none, none, none, some "Empty input".toList⟩
  | unknown =>
    r = ⟨false, none, none, none,
      some ("Unknown widget type: ".toList ++ Keyword.leadingWord (trim t))⟩
  | undecided =>
    Keyword.canGrowFrom (Keyword.leadingWord (trim t)) = true ∧
      r = ⟨false, none, none, some ⟨some false, some false, none, none, none⟩, none⟩
  | complete => ∃ w : Widget,
    r = ⟨true, some w.keyword.text, some (.widget w), none, none⟩ ∧
      parseBlock t = ⟨true, some w, none⟩ ∧
      (tokenize (trim t)).head? = some w.keyword.text
  | arriving => ∃ shown pending,
    r = ⟨false, some (Keyword.leadingWord (trim t)), some shown, some pending, none⟩ ∧
      shown.typeName = Keyword.leadingWord (trim t)

/-- The shape of an answer, read off the answer alone. -/
def ofResult (r : StreamingResult) : Verdict :=
  if r.complete then complete
  else if r.detectedType.isSome then arriving
  else if r.pending.isSome then undecided
  else if r.error = some "Empty input".toList then empty
  else unknown

theorem eq_ofResult {t : Text} {r : StreamingResult} {v : Verdict} (h : Holds t r v) :
    v = ofResult r := by
  cases v with
  | empty => obtain ⟨-, rfl⟩ := h; rfl
  | unknown =>
    unfold Holds at h
    rw [h]
    simp [ofResult]
  | undecided => obtain ⟨-, rfl⟩ := h; rfl
  | complete => obtain ⟨w, rfl, -⟩ := h; rfl
  | arriving => obtain ⟨shown, pending, rfl, -⟩ := h; rfl

end Verdict

theorem parseBlock_eq {t : Text} {w : Widget} (h : Grammar.parse t = .ok w) :
    parseBlock t = ⟨true, some w, none⟩ := by
  rw [parseBlock, h]
  rfl

/-- Every answer has one of the shapes. -/
theorem exists_verdict {t : Text} {r : StreamingResult} (h : stream t = .ok r) :
    ∃ v, Verdict.Holds t r v := by
  rcases answer_cases h with ⟨hnil, hr⟩ | ⟨-, -, ⟨hgrow, hr⟩ | ⟨-, hr⟩⟩ | ⟨k, hk, hr⟩
  · exact ⟨.empty, hnil, hr⟩
  · exact ⟨.undecided, hgrow, hr⟩
  · exact ⟨.unknown, hr⟩
  · rcases hr with ⟨w, hfin, hr⟩ | ⟨shown, pending, hr, htype⟩
    · obtain ⟨-, hparse⟩ := finished?_eq_some_iff.mp hfin
      have hw : w.keyword = k := by
        apply Grammar.keyword_of_parse _ hparse
        rw [trim_trim, hk, Keyword.ofText?_text]
      rw [Grammar.parse_trim] at hparse
      refine ⟨.complete, w, ?_, parseBlock_eq hparse, Grammar.head_tokenize_of_parse hparse⟩
      rw [hw]
      exact hr
    · refine ⟨.arriving, shown, pending, ?_, ?_⟩
      · rw [hr, hk]; rfl
      · rw [htype, hk]

/-- **The verdict of a stream.** Every answer has exactly one of the five shapes: the text is empty;
its first word can become no keyword; it may still become one; the block is complete, and then the
parse of the text has succeeded with the same widget, whose type is the first token; or it is still
arriving, and then what is shown has the type of the first word. -/
theorem verdict_of_stream {t : Text} {r : StreamingResult} (h : stream t = .ok r) :
    ∃! v, Verdict.Holds t r v := by
  obtain ⟨v, hv⟩ := exists_verdict h
  refine ⟨v, hv, fun v' hv' => ?_⟩
  rw [Verdict.eq_ofResult hv, Verdict.eq_ofResult hv']

/-- A list that is still arriving: the widget shown is read from the completed text. -/
theorem verdict_of_stream_open_list :
    ∃ r, stream "select env [a \"b".toList = .ok r ∧
      Verdict.Holds "select env [a \"b".toList r .arriving ∧
      ∃! v, Verdict.Holds "select env [a \"b".toList r v :=
  ⟨_, rfl, ⟨_, _, rfl, rfl⟩, verdict_of_stream rfl⟩

end Streaming

end Widgetry
