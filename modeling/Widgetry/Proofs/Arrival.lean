import Widgetry.Proofs.Verdict

/-!
# The keyword decision while a text arrives

A stream decides about the keyword by the first word alone: it waits or goes on while that word is a
beginning of some keyword, and refuses the text otherwise (`detectedType_of_stream`,
`error_eq_none_of_viable`, `stream_of_not_viable`). The first word of a text is a beginning of the
first word of every longer text, and a blank behind it fixes it for good. So a refusal is final, a
keyword with a blank behind it is final, and no beginning of a good text is refused
(`keyword_decision_monotone`).
-/

namespace Widgetry

open Text

namespace Keyword

/-! ## Words that may become keywords -/

/-- The word begins some keyword, or is one. -/
def Viable (word : Text) : Prop := word ≠ [] ∧ ∃ k : Keyword, word <+: k.text

theorem canGrowFrom_iff {word : Text} :
    canGrowFrom word = true ↔ word ≠ [] ∧ ∃ k : Keyword, word <+: k.text ∧ word ≠ k.text := by
  rw [canGrowFrom, Bool.and_eq_true, bne_iff_ne, List.any_eq_true]
  refine and_congr_right fun _ => ?_
  constructor
  · rintro ⟨k, -, h⟩
    rw [Bool.and_eq_true, List.isPrefixOf_iff_prefix, decide_eq_true_eq] at h
    refine ⟨k, h.1, ?_⟩
    rintro rfl
    exact absurd h.2 (lt_irrefl _)
  · rintro ⟨k, hpre, hne⟩
    refine ⟨k, mem_all k, ?_⟩
    rw [Bool.and_eq_true, List.isPrefixOf_iff_prefix, decide_eq_true_eq]
    exact ⟨hpre, lt_of_le_of_ne hpre.length_le fun h => hne (hpre.eq_of_length h)⟩

/-- A viable word is a keyword or can grow into one. -/
theorem viable_iff {word : Text} :
    Viable word ↔ (∃ k : Keyword, word = k.text) ∨ canGrowFrom word = true := by
  rw [canGrowFrom_iff]
  constructor
  · rintro ⟨hne, k, hpre⟩
    by_cases h : word = k.text
    · exact Or.inl ⟨k, h⟩
    · exact Or.inr ⟨hne, k, hpre, h⟩
  · rintro (⟨k, rfl⟩ | ⟨hne, k, hpre, -⟩)
    · exact ⟨text_ne_nil k, k, List.prefix_rfl⟩
    · exact ⟨hne, k, hpre⟩

/-- Every beginning of a viable word is viable. -/
theorem viable_of_longer {word longer : Text} (hne : word ≠ []) (hpre : word <+: longer)
    (h : Viable longer) : Viable word := by
  obtain ⟨-, k, hk⟩ := h
  exact ⟨hne, k, hpre.trans hk⟩

/-! ## The first word of a longer text -/

theorem leadingWord_trim_append {s : Text} (hs : ¬ Blank s) (t : Text) :
    leadingWord (trim s) <+: leadingWord (trim (s ++ t)) := by
  rw [leadingWord_trim, leadingWord_trim, trimStart_append hs]
  exact leadingWord_prefix_append (trimStart s) t

theorem leadingWord_trim_ne_nil {s : Text} (hs : ¬ Blank s) : leadingWord (trim s) ≠ [] :=
  leadingWord_ne_nil (fun h => hs (trim_eq_nil_iff.mp h)) (trimmed_trim s).front

/-- A word with a blank behind it stays the first word. -/
theorem leadingWord_trim_append_of_blank {s word rest : Text} {c : Char}
    (hs : trimStart s = word ++ c :: rest) (hword : ∀ d ∈ word, isBlank d = false)
    (hc : isBlank c = true) (t : Text) : leadingWord (trim (s ++ t)) = word := by
  have hink : ¬ Blank s := by
    intro h
    rw [trimStart_eq_nil_iff.mpr h] at hs
    exact absurd hs.symm (by simp)
  have hfirst : leadingWord (word ++ [c]) = word := by
    rw [leadingWord_append_of_blank_right (by simpa [Blank] using hc), leadingWord_eq_self hword]
  calc leadingWord (trim (s ++ t))
      = leadingWord ((word ++ [c]) ++ (rest ++ t)) := by
        rw [leadingWord_trim, trimStart_append hink, hs]
        simp
    _ = word := by
        rw [leadingWord_append_of_blank (by simp) hc, hfirst]

end Keyword

namespace Streaming

open Keyword

/-! ## The keyword decision of one answer -/

/-- The type that is detected is the first word, if that is a keyword. -/
theorem detectedType_of_stream {t : Text} {r : StreamingResult} (h : stream t = .ok r) :
    r.detectedType = (ofText? (leadingWord (trim t))).map Keyword.text := by
  rcases answer_cases h with ⟨hnil, rfl⟩ | ⟨-, hk, ⟨-, rfl⟩ | ⟨-, rfl⟩⟩ | ⟨k, hk, hr⟩
  · rw [hnil]
    rfl
  · rw [hk]
    rfl
  · rw [hk]
    rfl
  · rw [hk, ofText?_text, Option.map_some]
    rcases hr with ⟨w, -, rfl⟩ | ⟨shown, pending, rfl, -⟩
    · rfl
    · rfl

theorem error_eq_none_of_viable {t : Text} {r : StreamingResult}
    (hv : Viable (leadingWord (trim t))) (h : stream t = .ok r) : r.error = none := by
  rcases answer_cases h with ⟨hnil, -⟩ | ⟨-, hk, ⟨-, rfl⟩ | ⟨hgrow, -⟩⟩ | ⟨k, -, hr⟩
  · rw [hnil] at hv
    exact absurd rfl hv.1
  · rfl
  · rcases viable_iff.mp hv with ⟨k, hword⟩ | hgrow'
    · rw [hword, ofText?_text] at hk
      exact absurd hk (by simp)
    · rw [hgrow] at hgrow'
      exact absurd hgrow' (by simp)
  · rcases hr with ⟨w, -, rfl⟩ | ⟨shown, pending, rfl, -⟩
    · rfl
    · rfl

/-- A first word that begins no keyword is refused at once. -/
theorem stream_of_not_viable {t : Text} (hink : ¬ Blank t)
    (hv : ¬ Viable (leadingWord (trim t))) :
    stream t = .ok (refused (ParseError.unknownType (leadingWord (trim t))).message) := by
  rw [viable_iff, not_or, not_exists] at hv
  obtain ⟨hk, hgrow⟩ := hv
  rcases stream_cases t with ⟨hnil, -⟩ | ⟨-, -, ⟨hgrow', -⟩ | ⟨-, hs⟩⟩ | ⟨k, hk', -⟩
  · exact absurd (trim_eq_nil_iff.mp hnil) hink
  · exact absurd hgrow' hgrow
  · exact hs
  · exact absurd hk' (hk k)

/-- The answer refuses the type of the block. -/
def RefusesType (r : StreamingResult) : Prop :=
  ∃ word, r.error = some (ParseError.unknownType word).message

theorem unknownType_message_ne (word : Text) :
    (ParseError.unknownType word).message ≠ ParseError.emptyInput.message := by
  show "Unknown widget type: ".toList ++ word ≠ "Empty input".toList
  simp

theorem not_viable_of_refusesType {t : Text} {r : StreamingResult} (h : stream t = .ok r)
    (hr : RefusesType r) : ¬ Blank t ∧ ¬ Viable (leadingWord (trim t)) := by
  obtain ⟨word, hword⟩ := hr
  constructor
  · intro hblank
    have hempty : stream t = .ok (refused ParseError.emptyInput.message) := by
      simp [stream, trim_eq_nil_iff.mpr hblank]
    rw [← Except.ok.inj (hempty.symm.trans h)] at hword
    exact unknownType_message_ne word (Option.some.inj hword).symm
  · intro hv
    rw [error_eq_none_of_viable hv h] at hword
    exact absurd hword (by simp)

/-! ## Two answers -/

/-- **The keyword decision is monotone.** A text whose type is refused stays refused, whatever comes
after it. A keyword with a blank behind it is detected and never refused, whatever comes after it.
And every beginning of a text with a keyword that is not blank is accepted: no type has been detected
yet, or that keyword, or a shorter one that begins it. -/
theorem keyword_decision_monotone :
    (∀ s t r, stream s = .ok r → RefusesType r →
      stream (s ++ t) =
        .ok (refused (ParseError.unknownType (leadingWord (trim (s ++ t)))).message)) ∧
    (∀ (k : Keyword) s c rest, trimStart s = k.text ++ c :: rest → isBlank c = true →
      ∀ t r, stream (s ++ t) = .ok r → r.detectedType = some k.text ∧ r.error = none) ∧
    (∀ (k : Keyword) t, leadingWord (trim t) = k.text →
      ∀ s r, s <+: t → ¬ Blank s → stream s = .ok r → r.error = none ∧
        (r.detectedType = none ∨ r.detectedType = some k.text ∨
          ∃ k' : Keyword, r.detectedType = some k'.text ∧ k'.text <+: k.text ∧ k' ≠ k)) := by
  refine ⟨?_, ?_, ?_⟩
  · intro s t r h hr
    obtain ⟨hink, hv⟩ := not_viable_of_refusesType h hr
    apply stream_of_not_viable
    · exact fun hblank => hink fun c hc => hblank c (List.mem_append_left t hc)
    · exact fun hlonger => hv (viable_of_longer (leadingWord_trim_ne_nil hink)
        (leadingWord_trim_append hink t) hlonger)
  · intro k s c rest hs hc t r h
    have hword : leadingWord (trim (s ++ t)) = k.text :=
      leadingWord_trim_append_of_blank hs (fun d hd => (isPlain_of_mem_text k d hd).2) hc t
    constructor
    · rw [detectedType_of_stream h, hword, ofText?_text, Option.map_some]
    · exact error_eq_none_of_viable (viable_iff.mpr (Or.inl ⟨k, hword⟩)) h
  · rintro k _ hk s r ⟨t, rfl⟩ hink h
    -- the first word so far begins the first word of the whole text
    have hpre : leadingWord (trim s) <+: k.text := by
      rw [← hk]
      exact leadingWord_trim_append hink t
    refine ⟨error_eq_none_of_viable ⟨leadingWord_trim_ne_nil hink, k, hpre⟩ h, ?_⟩
    rw [detectedType_of_stream h]
    cases hs : ofText? (leadingWord (trim s)) with
    | none => exact Or.inl rfl
    | some k' =>
      rw [ofText?_eq_some_iff.mp hs] at hpre
      by_cases hkk : k' = k
      · exact Or.inr (Or.inl (by rw [hkk]; rfl))
      · exact Or.inr (Or.inr ⟨k', rfl, hpre, hkk⟩)

/-- A refusal, a keyword that a blank has ended, and a keyword that begins a longer one. -/
theorem keyword_decision_select_multi :
    (∃ r, stream "quizz".toList = .ok r ∧ RefusesType r ∧
      stream ("quizz".toList ++ "ical".toList) =
        .ok (refused (ParseError.unknownType "quizzical".toList).message)) ∧
    (∃ r, trimStart " select\t".toList = Keyword.select.text ++ '\t' :: [] ∧
      isBlank '\t' = true ∧ stream (" select\t".toList ++ "-multi".toList) = .ok r ∧
      r.detectedType = some Keyword.select.text ∧ r.error = none) ∧
    (∃ r, leadingWord (trim "select-multi a".toList) = Keyword.selectMulti.text ∧
      "select".toList <+: "select-multi a".toList ∧ ¬ Blank "select".toList ∧
      stream "select".toList = .ok r ∧ r.error = none ∧
      (r.detectedType = none ∨ r.detectedType = some Keyword.selectMulti.text ∨
        ∃ k' : Keyword, r.detectedType = some k'.text ∧ k'.text <+: Keyword.selectMulti.text ∧
          k' ≠ .selectMulti)) := by
  obtain ⟨refusal, blank, beginning⟩ := keyword_decision_monotone
  have hpre : "select".toList <+: "select-multi a".toList := by decide
  have hink : ¬ Blank "select".toList := by decide
  refine ⟨⟨_, rfl, ⟨_, rfl⟩, ?_⟩, ⟨_, rfl, rfl, rfl, ?_⟩, ⟨_, rfl, hpre, hink, rfl, ?_⟩⟩
  · exact refusal "quizz".toList "ical".toList _ rfl ⟨_, rfl⟩
  · exact blank .select " select\t".toList '\t' [] rfl rfl "-multi".toList _ rfl
  · exact beginning .selectMulti "select-multi a".toList rfl "select".toList _ hpre hink rfl

end Streaming

end Widgetry
