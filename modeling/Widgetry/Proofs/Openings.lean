import Widgetry.Proofs.Arrival

/-!
# How a block opens

Two readers find the keyword of a block: a stream takes the first word, the grammar the first token.
Where both find a keyword it is the same one. A first word that is a keyword is the first token
exactly if the token ends before more ink is taken into it (`head_tokenize_eq_iff`), and a first
token that is a keyword is the first word exactly if no quote or bracket stands in that word. So the
readers agree exactly if neither happens (`readersAgree_iff`), and they do not agree on a keyword in
quotes, which the grammar accepts and the stream refuses, nor on one that a tab ends
(`not_readersAgree_quoted_keyword`).
-/

namespace Widgetry.Scan

open Text

/-! ## A word at the front -/

/-- After a word, does the token end before it takes more ink? It ends with the text, or at a space
or a line feed between spans; marks of spans and other blanks may come before. -/
def endsWord : Span → Text → Bool
  | _, [] => true
  | .plain, c :: rest =>
    if c = '"' then endsWord .quoted rest
    else if c = '[' then endsWord .bracketed rest
    else if c = ' ' ∨ c = '\n' then true
    else isBlank c && endsWord .plain rest
  | .quoted, c :: rest =>
    if c = '"' then endsWord .plain rest else isBlank c && endsWord .quoted rest
  | .bracketed, c :: rest =>
    if c = ']' then false
    else if c = '[' then endsWord .bracketed rest
    else isBlank c && endsWord .bracketed rest

/-- A word with blanks behind it is finished as the word. -/
theorem flush_of_trimmed_word {w b : Text} (hne : w ≠ []) (hw : Trimmed w) (hb : Blank b)
    (span : Span) : flush ⟨[], b ++ w.reverse, span⟩ = ⟨[w], [], span⟩ := by
  have htrim : trim (b ++ w.reverse).reverse = w := by
    rw [List.reverse_append, List.reverse_reverse]
    exact trim_frame (a := []) (by simp [Blank]) (fun c hc => hb c (List.mem_reverse.mp hc)) hw
  rcases flush_cases ⟨[], b ++ w.reverse, span⟩ with ⟨hnil, -⟩ | ⟨-, hflush⟩
  · exact absurd (htrim.symm.trans hnil) hne
  · rw [hflush, htrim]

/-- One character after a word, for the scanner and for the word's end. -/
theorem step_endsWord_cases (s : Scan) (c : Char) (rest : Text) :
    (∃ span, s.step c = s.enter span ∧ endsWord s.span (c :: rest) = endsWord span rest) ∨
      (s.step c = s.push c ∧
        endsWord s.span (c :: rest) = (isBlank c && endsWord s.span rest)) ∨
      (s.step c = s.flush ∧ endsWord s.span (c :: rest) = true) ∨
      (s.step c = s.closeBracket ∧ endsWord s.span (c :: rest) = false) := by
  obtain ⟨tokens, current, span⟩ := s
  cases span with
  | plain =>
    by_cases hq : c = '"'
    · exact Or.inl ⟨.quoted, by simp [step, endsWord, hq]⟩
    by_cases ho : c = '['
    · exact Or.inl ⟨.bracketed, by simp [step, endsWord, ho]⟩
    by_cases hs : c = ' ' ∨ c = '\n'
    · exact Or.inr (Or.inr (Or.inl (by simp [step, endsWord, hq, ho, hs])))
    · exact Or.inr (Or.inl (by simp [step, endsWord, hq, ho, hs]))
  | quoted =>
    by_cases hq : c = '"'
    · exact Or.inl ⟨.plain, by simp [step, endsWord, hq]⟩
    · exact Or.inr (Or.inl (by simp [step, endsWord, hq]))
  | bracketed =>
    by_cases he : c = ']'
    · exact Or.inr (Or.inr (Or.inr (by simp [step, endsWord, he])))
    by_cases ho : c = '['
    · exact Or.inl ⟨.bracketed, by simp [step, endsWord, ho, enter]⟩
    · exact Or.inr (Or.inl (by simp [step, endsWord, he, ho]))

theorem getLast?_of_endsWord {w : Text} (hne : w ≠ []) (hw : Trimmed w) {rest : Text} {span : Span}
    (h : endsWord span rest = true) {b : Text} (hb : Blank b) :
    (rest.foldl step ⟨[], b ++ w.reverse, span⟩).flush.tokens.getLast? = some w := by
  induction rest generalizing span b with
  | nil =>
    rw [List.foldl_nil, flush_of_trimmed_word hne hw hb]
    rfl
  | cons c rest ih =>
    rw [List.foldl_cons]
    rcases step_endsWord_cases ⟨[], b ++ w.reverse, span⟩ c rest with
      ⟨span', hstep, hends⟩ | ⟨hstep, hends⟩ | ⟨hstep, -⟩ | ⟨-, hends⟩
    · rw [hstep]
      exact ih (hends ▸ h) hb
    · rw [hstep]
      obtain ⟨hc, hrest⟩ : isBlank c = true ∧ endsWord span rest = true := by
        simpa [hends] using h
      exact ih hrest (b := c :: b) (by simpa [Blank] using ⟨hc, hb⟩)
    · rw [hstep, flush_of_trimmed_word hne hw hb]
      exact getLast?_of_suffix rfl ((tokens_suffix_foldl _ rest).trans (tokens_suffix_flush _))
    · rw [hends] at h
      exact absurd h (by simp)

/-- The first token is another one than the word `w`: it has been finished as another one, or the
current token begins with the word and has more ink behind it. -/
def Outgrown (w : Text) (s : Scan) : Prop :=
  (∃ first, s.tokens.getLast? = some first ∧ first ≠ w) ∨
    (s.tokens = [] ∧ ∃ y, ¬ Blank y ∧ s.current.reverse = w ++ y)

theorem trim_append_ne_self {w y : Text} (hne : w ≠ []) (hw : Trimmed w) (hy : ¬ Blank y) :
    trim (w ++ y) ≠ w := by
  have hfront : ∀ c ∈ (w ++ y).head?, isBlank c = false := by
    rw [List.head?_append_of_ne_nil _ hne]
    exact hw.front
  rw [trim, trimStart_eq_self hfront, trimEnd_append_of_ink hy]
  intro h
  have hnil : trimEnd y = [] := by simpa using h
  obtain ⟨b, hb, hsplit⟩ := exists_trimEnd_append y
  rw [hnil, List.nil_append] at hsplit
  exact hy (hsplit ▸ hb)

theorem outgrown_flush {w : Text} (hne : w ≠ []) (hw : Trimmed w) {s : Scan} (h : Outgrown w s) :
    Outgrown w s.flush := by
  rcases h with ⟨first, hfirst, hother⟩ | ⟨hnil, y, hy, hcurrent⟩
  · exact Or.inl ⟨first, getLast?_of_suffix hfirst (tokens_suffix_flush s), hother⟩
  · rcases flush_cases s with ⟨htrim, -⟩ | ⟨-, hflush⟩
    · rw [hcurrent, trim_eq_nil_iff] at htrim
      exact absurd (fun c hc => htrim c (List.mem_append_right w hc)) hy
    · refine Or.inl ⟨trim s.current.reverse, ?_, ?_⟩
      · rw [hflush, hnil]
        rfl
      · rw [hcurrent]
        exact trim_append_ne_self hne hw hy

/-- An array is no word. -/
theorem outgrown_closeBracket {w : Text} (hbracket : w.head? ≠ some '[') {s : Scan}
    (hnil : s.tokens = []) : Outgrown w s.closeBracket := by
  refine Or.inl ⟨'[' :: trim s.current.reverse ++ [']'], by rw [closeBracket, hnil]; rfl, ?_⟩
  intro h
  exact hbracket (by rw [← h]; rfl)

theorem outgrown_step {w : Text} (hne : w ≠ []) (hw : Trimmed w) (hbracket : w.head? ≠ some '[')
    {s : Scan} (h : Outgrown w s) (c : Char) : Outgrown w (s.step c) := by
  rcases h with ⟨first, hfirst, hother⟩ | ⟨hnil, y, hy, hcurrent⟩
  · exact Or.inl ⟨first, getLast?_of_suffix hfirst (tokens_suffix_step s c), hother⟩
  · rcases step_cases s c with ⟨span, hstep, -⟩ | hstep | ⟨hstep, -⟩ | ⟨hstep, -⟩
    · rw [hstep]
      exact Or.inr ⟨hnil, y, hy, hcurrent⟩
    · rw [hstep]
      refine Or.inr ⟨hnil, y ++ [c], ?_, by simp [push, hcurrent]⟩
      exact fun hb => hy fun d hd => hb d (List.mem_append_left _ hd)
    · rw [hstep]
      exact outgrown_flush hne hw (Or.inr ⟨hnil, y, hy, hcurrent⟩)
    · rw [hstep]
      exact outgrown_closeBracket hbracket hnil

theorem outgrown_foldl {w : Text} (hne : w ≠ []) (hw : Trimmed w) (hbracket : w.head? ≠ some '[')
    {s : Scan} (h : Outgrown w s) (t : Text) : Outgrown w (t.foldl step s) := by
  induction t generalizing s with
  | nil => exact h
  | cons c t ih => exact ih (outgrown_step hne hw hbracket h c)

theorem getLast?_ne_of_outgrown {w : Text} (hne : w ≠ []) {s : Scan} (h : Outgrown w s.flush) :
    s.flush.tokens.getLast? ≠ some w := by
  rcases h with ⟨first, hfirst, hother⟩ | ⟨-, y, -, hcurrent⟩
  · rw [hfirst]
    exact fun h => hother (Option.some.inj h)
  · rw [current_flush] at hcurrent
    exact absurd (List.append_eq_nil_iff.mp hcurrent.symm).1 hne

theorem outgrown_of_not_endsWord {w : Text} (hne : w ≠ []) (hw : Trimmed w)
    (hbracket : w.head? ≠ some '[') {rest : Text} {span : Span} (h : endsWord span rest = false)
    (b : Text) : Outgrown w (rest.foldl step ⟨[], b ++ w.reverse, span⟩) := by
  induction rest generalizing span b with
  | nil => exact absurd h (by simp [endsWord])
  | cons c rest ih =>
    rw [List.foldl_cons]
    rcases step_endsWord_cases ⟨[], b ++ w.reverse, span⟩ c rest with
      ⟨span', hstep, hends⟩ | ⟨hstep, hends⟩ | ⟨-, hends⟩ | ⟨hstep, -⟩
    · rw [hstep]
      exact ih (hends ▸ h) b
    · rw [hstep]
      cases hc : isBlank c with
      | true => exact ih (b := c :: b) (by simpa [hends, hc] using h)
      | false =>
        -- ink: the token has outgrown the word
        apply outgrown_foldl hne hw hbracket
        refine Or.inr ⟨rfl, b.reverse ++ [c], ?_, by simp [push]⟩
        intro hb
        rw [hb c (by simp)] at hc
        exact absurd hc (by simp)
    · rw [hends] at h
      exact absurd h (by simp)
    · rw [hstep]
      exact outgrown_foldl hne hw hbracket (outgrown_closeBracket hbracket rfl) rest

end Widgetry.Scan

namespace Widgetry

open Text Scan

/-- **When a word at the front is the first token**: exactly if the token ends before it takes more
ink. -/
theorem head_tokenize_eq_iff {w rest : Text} (hne : w ≠ [])
    (hw : ∀ c ∈ w, IsPlain c ∧ isBlank c = false) :
    (tokenize (w ++ rest)).head? = some w ↔ endsWord .plain rest = true := by
  have htrimmed : Trimmed w :=
    ⟨fun c hc => (hw c (List.mem_of_mem_head? hc)).2,
      fun c hc => (hw c (List.mem_of_mem_getLast? hc)).2⟩
  have hbracket : w.head? ≠ some '[' :=
    fun h => (hw '[' (List.mem_of_mem_head? h)).1.2.1 rfl
  have hscan : scan (w ++ rest) = rest.foldl step ⟨[], [] ++ w.reverse, .plain⟩ := by
    rw [scan_append, scan_of_isPlain fun c hc => (hw c hc).1]
    rfl
  rw [tokenize, List.head?_reverse, hscan]
  constructor
  · intro h
    by_contra hends
    apply getLast?_ne_of_outgrown hne _ h
    apply outgrown_flush hne htrimmed
    exact outgrown_of_not_endsWord hne htrimmed hbracket (by simpa using hends) []
  · intro h
    exact getLast?_of_endsWord hne htrimmed h (by simp [Blank])

/-! ## Two readers of a keyword -/

/-- The first word of the text is the keyword: the type that a stream detects. -/
def Keyword.Leads (k : Keyword) (t : Text) : Prop := leadingWord (trim t) = k.text

/-- The first token of the text is the keyword: the grammar that a parse goes to. -/
def Keyword.Opens (k : Keyword) (t : Text) : Prop := (tokenize (trim t)).head? = some k.text

instance (k : Keyword) (t : Text) : Decidable (k.Leads t) := inferInstanceAs (Decidable (_ = _))

instance (k : Keyword) (t : Text) : Decidable (k.Opens t) := inferInstanceAs (Decidable (_ = _))

/-- The two readers find the same keyword, or both none. -/
def ReadersAgree (t : Text) : Prop := ∀ k : Keyword, k.Leads t ↔ k.Opens t

/-- What stands behind the first word. -/
def behindWord (t : Text) : Text := t.dropWhile fun c => !isBlank c

/-- A quote or an opening bracket stands in the word. -/
def Marked (word : Text) : Prop := '"' ∈ word ∨ '[' ∈ word

instance (word : Text) : Decidable (Marked word) := inferInstanceAs (Decidable (_ ∨ _))

namespace Keyword

variable {k k' : Keyword} {t : Text}

theorem not_marked_text (k : Keyword) : ¬ Marked k.text := by
  rintro (h | h)
  · exact (isPlain_of_mem_text k _ h).1.1 rfl
  · exact (isPlain_of_mem_text k _ h).1.2.1 rfl

/-- A first word without marks is plain, since it has no blanks. -/
theorem isPlain_of_not_marked (h : ¬ Marked (leadingWord t)) : ∀ c ∈ leadingWord t, IsPlain c := by
  intro c hc
  have hink := not_blank_of_mem_leadingWord hc
  refine ⟨?_, ?_, ?_, ?_⟩
  · rintro rfl
    exact h (Or.inl hc)
  · rintro rfl
    exact h (Or.inr hc)
  · rintro rfl
    exact absurd hink (by decide)
  · rintro rfl
    exact absurd hink (by decide)

/-- No keyword begins with a word that has marks. -/
theorem not_viable_of_marked {word : Text} (h : Marked word) : ¬ Viable word := by
  rintro ⟨-, k, hk⟩
  exact not_marked_text k (h.imp (hk.subset ·) (hk.subset ·))

/-- **Two keywords at the front of a text are the same.** -/
theorem eq_of_leads_of_opens (hk : k.Leads t) (hk' : k'.Opens t) : k = k' :=
  eq_of_leadingWord_of_head hk hk'

/-- **When the grammar sees the keyword of the stream.** -/
theorem opens_iff_of_leads (hk : k.Leads t) :
    k.Opens t ↔ endsWord .plain (behindWord (trim t)) = true := by
  have hsplit : k.text ++ behindWord (trim t) = trim t := by
    have hword : leadingWord (trim t) = k.text := hk
    rw [← hword]
    exact List.takeWhile_append_dropWhile
  unfold Opens
  rw [← hsplit, head_tokenize_eq_iff (text_ne_nil k) (isPlain_of_mem_text k), hsplit]

theorem trim_ne_nil_of_opens (hk : k.Opens t) : trim t ≠ [] := by
  intro hnil
  have hhead : (tokenize (trim t)).head? = some k.text := hk
  rw [hnil] at hhead
  exact absurd hhead (by simp [tokenize, scan, Scan.start, flush, trim, trimStart, trimEnd])

/-- **When the stream sees the keyword of the grammar.** -/
theorem leads_iff_of_opens (hk : k.Opens t) : k.Leads t ↔ ¬ Marked (leadingWord (trim t)) := by
  constructor
  · intro hleads
    rw [show leadingWord (trim t) = k.text from hleads]
    exact not_marked_text k
  · intro hmarks
    obtain ⟨first, hfirst, hbegins⟩ := head_tokenize
      (leadingWord_ne_nil (trim_ne_nil_of_opens hk) (trimmed_trim t).front)
      (isPlain_of_not_marked hmarks)
    have htoken : first = k.text := Option.some.inj (hfirst.symm.trans hk)
    rw [htoken] at hbegins
    rcases hbegins with hbracket | hword
    · exact absurd hbracket (not_begins_bracket k)
    · rw [leadingWord_text] at hword
      exact hword.symm

end Keyword

/-! ## What the stream refuses and the grammar accepts -/

theorem opens_of_parse {t : Text} {w : Widget} (h : Grammar.parse t = .ok w) :
    w.keyword.Opens t :=
  Grammar.head_tokenize_of_parse h

/-- A stream refuses no text with a keyword in front. -/
theorem stream_ne_refused_of_leads {k : Keyword} {t : Text} (hk : k.Leads t) (reason : Text) :
    Streaming.stream t ≠ .ok (Streaming.refused reason) := by
  intro h
  have hviable : Keyword.Viable (Keyword.leadingWord (trim t)) :=
    Keyword.viable_iff.mpr (Or.inl ⟨k, hk⟩)
  have herror := Streaming.error_eq_none_of_viable hviable h
  exact absurd herror (by simp [Streaming.refused])

/-- **Exactly which accepted blocks a stream refuses**: those with a mark in the first word. -/
theorem stream_eq_refused_iff_of_parse {t : Text} {w : Widget} (h : Grammar.parse t = .ok w) :
    Streaming.stream t =
        .ok (Streaming.refused (ParseError.unknownType (Keyword.leadingWord (trim t))).message) ↔
      Marked (Keyword.leadingWord (trim t)) := by
  have hopens := opens_of_parse h
  constructor
  · intro hrefused
    by_contra hmarks
    have hleads := (Keyword.leads_iff_of_opens hopens).mpr hmarks
    exact stream_ne_refused_of_leads hleads _ hrefused
  · intro hmarks
    apply Streaming.stream_of_not_viable
    · exact fun hblank => Keyword.trim_ne_nil_of_opens hopens (trim_eq_nil_iff.mpr hblank)
    · exact Keyword.not_viable_of_marked hmarks

/-! ## Agreement -/

/-- Behind a first word without marks, a space or a line feed or the end of the text makes the
readers agree. -/
theorem readersAgree_of_separated {t : Text} (hmarks : ¬ Marked (Keyword.leadingWord (trim t)))
    (hbehind : ∀ c ∈ (behindWord (trim t)).head?, c = ' ' ∨ c = '\n') : ReadersAgree t := by
  have hends : endsWord .plain (behindWord (trim t)) = true := by
    cases hb : behindWord (trim t) with
    | nil => rfl
    | cons c rest =>
      rw [hb] at hbehind
      rcases hbehind c rfl with rfl | rfl
      · rfl
      · rfl
  intro k
  constructor
  · intro hleads
    exact (Keyword.opens_iff_of_leads hleads).mpr hends
  · intro hopens
    exact (Keyword.leads_iff_of_opens hopens).mpr hmarks

/-- **Exactly when the two readers of a keyword agree**: the token of a first word that is a keyword
ends before it takes more ink, and no mark stands in the first word in front of a first token that
is a keyword. Where both find a keyword it is the same one. A stream detects the one, a parse goes
to the grammar of the other; so an accepted block is refused by the stream exactly if a mark stands
in its first word. -/
theorem readersAgree_iff (t : Text) :
    (ReadersAgree t ↔
      (∀ k : Keyword, k.Leads t → endsWord .plain (behindWord (trim t)) = true) ∧
        ∀ k : Keyword, k.Opens t → ¬ Marked (Keyword.leadingWord (trim t))) ∧
    (¬ Marked (Keyword.leadingWord (trim t)) →
      (∀ c ∈ (behindWord (trim t)).head?, c = ' ' ∨ c = '\n') → ReadersAgree t) ∧
    (∀ k k' : Keyword, k.Leads t → k'.Opens t → k = k') ∧
    (∀ (k : Keyword) r, Streaming.stream t = .ok r →
      (r.detectedType = some k.text ↔ k.Leads t)) ∧
    (∀ k : Keyword, k.Opens t → ∃ parts, tokenize (trim t) = k.text :: parts ∧
      Grammar.parse t = Grammar.readBlock Grammar.parseLine k parts (trim t)) ∧
    ∀ w, Grammar.parse t = .ok w →
      (Streaming.stream t = .ok (Streaming.refused
          (ParseError.unknownType (Keyword.leadingWord (trim t))).message) ↔
        Marked (Keyword.leadingWord (trim t))) := by
  refine ⟨?_, readersAgree_of_separated, fun k k' => Keyword.eq_of_leads_of_opens, ?_, ?_,
    fun w => stream_eq_refused_iff_of_parse⟩
  · constructor
    · intro hagree
      refine ⟨fun k hleads => ?_, fun k hopens => ?_⟩
      · exact (Keyword.opens_iff_of_leads hleads).mp ((hagree k).mp hleads)
      · exact (Keyword.leads_iff_of_opens hopens).mp ((hagree k).mpr hopens)
    · rintro ⟨hends, hmarks⟩ k
      constructor
      · intro hleads
        exact (Keyword.opens_iff_of_leads hleads).mpr (hends k hleads)
      · intro hopens
        exact (Keyword.leads_iff_of_opens hopens).mpr (hmarks k hopens)
  · intro k r hr
    rw [Streaming.detectedType_of_stream hr, Option.map_eq_some_iff]
    constructor
    · rintro ⟨k', hk', htext⟩
      exact (Keyword.ofText?_eq_some_iff.mp hk').trans htext
    · intro hleads
      exact ⟨k, Keyword.ofText?_eq_some_iff.mpr hleads, rfl⟩
  · intro k hopens
    have hhead : (tokenize (trim t)).head? = some k.text := hopens
    obtain ⟨parts, htokens⟩ := List.head?_eq_some_iff.mp hhead
    refine ⟨parts, htokens, ?_⟩
    simp only [Grammar.parse, Grammar.parseWith, htokens, Keyword.ofText?_text]

/-- A keyword with quotes behind it, and a tab that is no ink. -/
theorem readersAgree_select :
    Keyword.select.Leads "select\t\"\" env [a]".toList ∧
      Keyword.select.Opens "select\t\"\" env [a]".toList ∧
      ReadersAgree "select\t\"\" env [a]".toList := by
  have hleads : Keyword.select.Leads "select\t\"\" env [a]".toList := by decide
  have hmarks : ¬ Marked (Keyword.leadingWord (trim "select\t\"\" env [a]".toList)) := by decide
  obtain ⟨hiff, -⟩ := readersAgree_iff "select\t\"\" env [a]".toList
  have hagree : ReadersAgree "select\t\"\" env [a]".toList :=
    hiff.mpr ⟨fun k _ => by decide, fun k _ => hmarks⟩
  exact ⟨hleads, (hagree .select).mp hleads, hagree⟩

/-- **The readers need not agree.** The grammar accepts a keyword in quotes, which the stream
refuses as an unknown type. The stream detects a keyword that a tab ends, and the grammar takes the tab and
the next letter into the token. -/
theorem not_readersAgree_quoted_keyword :
    (¬ ReadersAgree "\"text-input\" a".toList ∧
        parseBlock "\"text-input\" a".toList =
          ⟨true, some (.textInput ⟨some "a".toList, none, none, none⟩), none⟩ ∧
        Streaming.stream "\"text-input\" a".toList =
          .ok ⟨false, none, none, none,
            some "Unknown widget type: \"text-input\"".toList⟩) ∧
      ¬ ReadersAgree "text-input\ta".toList ∧
        parseBlock "text-input\ta".toList =
          ⟨false, none, some "Unknown widget type: text-input\ta".toList⟩ ∧
        ∃ r, Streaming.stream "text-input\ta".toList = .ok r ∧
          r.detectedType = some "text-input".toList ∧ r.error = none := by
  refine ⟨⟨?_, rfl, rfl⟩, ?_, rfl, _, rfl, rfl, rfl⟩
  · intro hagree
    have hopens : Keyword.textInput.Opens "\"text-input\" a".toList := by decide
    exact absurd ((hagree .textInput).mpr hopens) (by decide)
  · intro hagree
    have hleads : Keyword.textInput.Leads "text-input\ta".toList := by decide
    exact absurd ((hagree .textInput).mp hleads) (by decide)

end Widgetry
