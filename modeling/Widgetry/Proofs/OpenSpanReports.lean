import Widgetry.Proofs.RoundTrip
import Widgetry.Proofs.Verdict

/-!
# What an unfinished block reports as open

The answer for a block that is still arriving has two flags for the spans that are open at its end.
The previews of quizzes, forms and charts and the stubs report both. A widget that has been read from
the completed text comes with the bracket alone (`spans_of_preview`), so a quote that is open inside
the array is not reported, and this is the only case in which the flags are wrong (`reports_iff`).
-/

namespace Widgetry

open Text Outcome

namespace Streaming

/-! ## Flags of a preview -/

/-- The flags tell of each kind of span whether one is open at the end of the trimmed text. A flag
that is absent counts as not set. -/
structure Reports (t : Text) (p : Pending) : Prop where
  bracket : p.unclosedBracket.getD false = (OpenSpan.ofText (trim t)).bracketOpen
  quote : p.unclosedQuote.getD false = (OpenSpan.ofText (trim t)).quoteOpen

/-- The source is a widget of one line as soon as its open array is closed. -/
def Recovers (k : Keyword) (source : Text) : Prop :=
  k.hasOneLine = true ∧ (OpenSpan.ofText source).bracketOpen = true ∧
    ∃ w, Grammar.parse (complete source) = .ok w

/-- The flags that come with a widget which has been read from the completed text. -/
def bracketAlone : Pending := { Pending.unstated with unclosedBracket := true }

/-- The flags state what is open at the end of the source, be it open or not. -/
def StatesSpans (source : Text) (p : Pending) : Prop :=
  p.unclosedBracket = some (OpenSpan.ofText source).bracketOpen ∧
    p.unclosedQuote = some (OpenSpan.ofText source).quoteOpen

theorem preview_of_hasOneLine {k : Keyword} (hk : k.hasOneLine = true) (source : Text)
    (pending : Pending) : preview k.text source pending = .ok (previewLine k.text source pending) := by
  rw [preview, Keyword.ofText?_text]
  cases k with
  | quiz | form | chart => exact absurd hk (by simp [Keyword.hasOneLine])
  | _ => rfl

theorem spans_of_previewLine {k : Keyword} (hk : k.hasOneLine = true) (source : Text) :
    (Recovers k source ∧
        (previewLine k.text source (pendingOf source)).pending = some bracketAlone) ∨
      (¬ Recovers k source ∧
        (previewLine k.text source (pendingOf source)).pending = some (pendingOf source)) := by
  simp only [previewLine]
  split
  · rename_i w hw
    split at hw
    · rename_i hopen
      cases hparse : Grammar.parse (complete source) with
      | ok w' => exact Or.inl ⟨⟨hk, by simpa [pendingOf] using hopen, w', hparse⟩, rfl⟩
      | error e => exact absurd hw (by simp [hparse, Except.toOption])
    · exact absurd hw (by simp)
  · rename_i hnone
    refine Or.inr ⟨?_, rfl⟩
    rintro ⟨-, hopen, w, hparse⟩
    simp [pendingOf, hopen, hparse, Except.toOption] at hnone

/-- **The flags of every preview**: those of the source, or the bracket alone if the preview is a
widget of the completed source. -/
theorem spans_of_preview {k : Keyword} {source : Text} {r : StreamingResult}
    (h : preview k.text source (pendingOf source) = .ok r) :
    ∃ p, r.pending = some p ∧
      ((Recovers k source ∧ p = bracketAlone) ∨ (¬ Recovers k source ∧ StatesSpans source p)) := by
  cases hline : k.hasOneLine with
  | true =>
    obtain rfl := Except.ok.inj ((preview_of_hasOneLine hline source _).symm.trans h)
    rcases spans_of_previewLine hline source with ⟨hrecovers, hpending⟩ | ⟨hnot, hpending⟩
    · exact ⟨_, hpending, Or.inl ⟨hrecovers, rfl⟩⟩
    · exact ⟨_, hpending, Or.inr ⟨hnot, rfl, rfl⟩⟩
  | false =>
    have hnot : ¬ Recovers k source := by simp [Recovers, hline]
    rw [preview, Keyword.ofText?_text] at h
    cases k with
    | quiz =>
      obtain ⟨quiz, -, rfl⟩ := map_eq_ok_iff.mp h
      exact ⟨_, rfl, Or.inr ⟨hnot, rfl, rfl⟩⟩
    | form =>
      obtain rfl := Except.ok.inj h
      exact ⟨_, rfl, Or.inr ⟨hnot, rfl, rfl⟩⟩
    | chart kind =>
      obtain rfl := Except.ok.inj h
      exact ⟨_, rfl, Or.inr ⟨hnot, rfl, rfl⟩⟩
    | _ => exact absurd hline (by decide)

/-! ## Flags of an answer -/

/-- The widget of an unfinished block is read from the completed text. -/
def RecoversText (t : Text) : Prop :=
  ∃ k : Keyword, Keyword.leadingWord (trim t) = k.text ∧ Recovers k (trim t)

theorem spans_of_stream {t : Text} {r : StreamingResult} (h : stream t = .ok r)
    (harriving : r.complete = false) (hdetected : r.detectedType.isSome = true) :
    ∃ p, r.pending = some p ∧
      ((RecoversText t ∧ p = bracketAlone) ∨ (¬ RecoversText t ∧ StatesSpans (trim t) p)) := by
  rcases stream_cases t with
    ⟨-, hs⟩ | ⟨-, -, ⟨-, hs⟩ | ⟨-, hs⟩⟩ | ⟨k, hk, ⟨w, -, hs⟩ | ⟨-, hs⟩⟩
  · rw [← Except.ok.inj (hs.symm.trans h)] at hdetected
    exact absurd hdetected (by simp [refused])
  · rw [← Except.ok.inj (hs.symm.trans h)] at hdetected
    exact absurd hdetected (by simp [undecided])
  · rw [← Except.ok.inj (hs.symm.trans h)] at hdetected
    exact absurd hdetected (by simp [refused])
  · rw [← Except.ok.inj (hs.symm.trans h)] at harriving
    exact absurd harriving (by simp [completeResult])
  · -- the keyword is the first word, so whether the text recovers is a matter of this one
    have hiff : RecoversText t ↔ Recovers k (trim t) := by
      constructor
      · rintro ⟨k', hk', hrecovers⟩
        rwa [Keyword.text_injective (hk.symm.trans hk')]
      · exact fun hrecovers => ⟨k, hk, hrecovers⟩
    rw [hiff]
    exact spans_of_preview (hs.symm.trans h)

/-- **Exactly when the flags are right.** An unfinished block of a known type always reports an open
bracket, and it reports both spans truthfully unless a quote is open in an array whose closing
completes a widget of one line. Then the quote is not reported. -/
theorem reports_iff {t : Text} {r : StreamingResult} (h : stream t = .ok r)
    (harriving : r.complete = false) (hdetected : r.detectedType.isSome = true) :
    ∃ p, r.pending = some p ∧
      p.unclosedBracket.getD false = (OpenSpan.ofText (trim t)).bracketOpen ∧
      (Reports t p ↔ ¬ (RecoversText t ∧ (OpenSpan.ofText (trim t)).quoteOpen = true)) ∧
      (RecoversText t → p.unclosedQuote = none) := by
  obtain ⟨p, hp, ⟨hrecovers, rfl⟩ | ⟨hnot, hbracket, hquote⟩⟩ :=
    spans_of_stream h harriving hdetected
  · have hopen : (OpenSpan.ofText (trim t)).bracketOpen = true := by
      obtain ⟨k, -, -, hopen, -⟩ := hrecovers
      exact hopen
    refine ⟨_, hp, hopen.symm, ?_, fun _ => rfl⟩
    constructor
    · rintro ⟨-, hquote⟩ ⟨-, hset⟩
      exact absurd (hquote.trans hset) (by decide)
    · intro hclosed
      refine ⟨hopen.symm, ?_⟩
      cases hset : (OpenSpan.ofText (trim t)).quoteOpen with
      | true => exact absurd ⟨hrecovers, hset⟩ hclosed
      | false => rfl
  · have hreports : Reports t p := ⟨by rw [hbracket]; rfl, by rw [hquote]; rfl⟩
    exact ⟨p, hp, hreports.bracket,
      iff_of_true hreports fun hrecovers => hnot hrecovers.1, fun hrecovers => absurd hrecovers hnot⟩

/-- A quote inside an array that is too short for a slider: the stub reports both. -/
theorem reports_slider :
    ∃ r p, stream "slider cpu [\"1".toList = .ok r ∧ r.complete = false ∧
      r.detectedType.isSome = true ∧ r.pending = some p ∧
      Reports "slider cpu [\"1".toList p ∧
      (OpenSpan.ofText "slider cpu [\"1".toList).bracketOpen = true ∧
      (OpenSpan.ofText "slider cpu [\"1".toList).quoteOpen = true := by
  obtain ⟨p, hp, -, hreports, -⟩ :=
    reports_iff (t := "slider cpu [\"1".toList) rfl rfl rfl
  refine ⟨_, p, rfl, rfl, rfl, hp, hreports.mpr ?_, rfl, rfl⟩
  rintro ⟨⟨k, -, -, -, w, hparse⟩, -⟩
  have hrefused : Grammar.parse (complete (trim "slider cpu [\"1".toList)) =
      .error (.incomplete .slider) := rfl
  rw [hrefused] at hparse
  exact absurd hparse (by simp)

/-- **A quote in an array need not be reported.** The selection list is read with its array closed,
and its flags leave out the open quote. -/
theorem not_reports_quote_in_array :
    (∃ r, stream "select a [\"x".toList = .ok r ∧ r.complete = false ∧
        r.detectedType = some "select".toList ∧
        r.pending = some ⟨some true, none, none, none, none⟩) ∧
      (OpenSpan.ofText (trim "select a [\"x".toList)).quoteOpen = true ∧
      ¬ ∀ t r, stream t = .ok r → r.complete = false → r.detectedType.isSome = true →
          ∃ p, r.pending = some p ∧ Reports t p := by
  refine ⟨⟨_, rfl, rfl, rfl, rfl⟩, rfl, ?_⟩
  intro h
  obtain ⟨p, hp, hreports⟩ := h "select a [\"x".toList _ rfl rfl rfl
  obtain rfl : bracketAlone = p := Option.some.inj hp
  exact absurd hreports.quote (by decide)

end Streaming

end Widgetry
