import Widgetry.Proofs.Outcome
import Widgetry.Proofs.Tokens
import Widgetry.Grammar.Block

/-!
# Which grammar reads a block

A block goes to the grammar of its first token, and what that grammar reads is a widget of its own
keyword (`parse_eq_ok`). The stream chooses by the first word instead. First token and first word
differ in general, but where both are keywords they are the same one, since a token that begins with
a keyword and goes on after a blank is no keyword (`keyword_of_parse`).
-/

namespace Widgetry

open Text Scan Outcome

namespace Keyword

/-! ## Keywords as words -/

theorem mem_all (k : Keyword) : k ∈ all := by
  cases k with
  | chart kind => cases kind <;> decide
  | _ => decide

theorem text_injective {k k' : Keyword} (h : k.text = k'.text) : k = k' := by
  have hk := ofText?_text k
  rw [h, ofText?_text] at hk
  exact (Option.some.inj hk).symm

theorem text_ne_nil (k : Keyword) : k.text ≠ [] := by
  cases k with
  | chart kind => cases kind <;> decide
  | _ => decide

/-- A keyword is a plain word. -/
theorem isPlain_of_mem_text (k : Keyword) : ∀ c ∈ k.text, IsPlain c ∧ isBlank c = false := by
  have hall : k.text.all (fun c => decide (IsPlain c ∧ isBlank c = false)) = true := by
    cases k with
    | chart kind => cases kind <;> decide
    | _ => decide
  intro c hc
  exact of_decide_eq_true (List.all_eq_true.mp hall c hc)

theorem leadingWord_text (k : Keyword) : leadingWord k.text = k.text :=
  leadingWord_eq_self fun c hc => (isPlain_of_mem_text k c hc).2

theorem not_begins_bracket (k : Keyword) : k.text.head? ≠ some '[' := by
  cases k with
  | chart kind => cases kind <;> decide
  | _ => decide

/-- **A keyword that begins like a keyword is that keyword.** -/
theorem eq_of_begins {k k' : Keyword} (h : Begins k.text k'.text) : k' = k := by
  rcases h with h | h
  · exact absurd h (not_begins_bracket k')
  · rw [leadingWord_text] at h
    exact text_injective h

/-- **A keyword that is the first word and a keyword that is the first token are the same.** -/
theorem eq_of_leadingWord_of_head {t : Text} {k k' : Keyword} (hk : leadingWord t = k.text)
    (hk' : (tokenize t).head? = some k'.text) : k = k' := by
  obtain ⟨first, hfirst, hbegins⟩ := head_tokenize (t := t)
    (by rw [hk]; exact text_ne_nil k)
    (by rw [hk]; exact fun c hc => (isPlain_of_mem_text k c hc).1)
  rw [hk, Option.some.inj (hfirst.symm.trans hk')] at hbegins
  exact (eq_of_begins hbegins).symm

end Keyword

namespace Grammar

/-! ## Dispatch -/

theorem kind_of_readChart {kind : ChartKind} {source : Text} {c : Chart}
    (h : readChart kind source = .ok c) : c.kind = kind := by
  simp only [readChart] at h
  split at h
  · obtain ⟨_, habort, -⟩ := bind_eq_ok_iff.mp h
    exact absurd habort throw_ne_ok
  · split at h
    all_goals
      obtain ⟨header, -, h⟩ := bind_eq_ok_iff.mp h
      obtain ⟨table, -, h⟩ := bind_eq_ok_iff.mp h
      rw [← pure_eq_ok_iff.mp h]

/-- Every grammar reads widgets of its own keyword. -/
theorem keyword_of_readBlock {child : Text → Except ParseError Widget} {k : Keyword}
    {parts : List Text} {source : Text} {w : Widget}
    (h : readBlock child k parts source = .ok w) : w.keyword = k := by
  cases k with
  | form =>
    simp only [readBlock, readForm] at h
    split at h
    · rw [← Except.ok.inj h]; rfl
    · exact absurd h (by simp)
  | chart kind =>
    obtain ⟨c, hc, rfl⟩ := map_eq_ok_iff.mp h
    rw [Widget.keyword, kind_of_readChart hc]
  | _ =>
    obtain ⟨_, -, rfl⟩ := map_eq_ok_iff.mp h
    rfl

/-- **What a parse has read**: the block of the first token, by that token's grammar. -/
theorem parseWith_eq_ok {child : Text → Except ParseError Widget} {t : Text} {w : Widget}
    (h : parseWith child t = .ok w) :
    ∃ parts, tokenize (trim t) = w.keyword.text :: parts ∧
      readBlock child w.keyword parts (trim t) = .ok w := by
  simp only [parseWith] at h
  split at h
  · exact absurd h (by simp)
  · rename_i word parts htokens
    split at h
    · exact absurd h (by simp)
    · rename_i k hk
      have hword := keyword_of_readBlock h
      subst hword
      exact ⟨parts, by rw [htokens, Keyword.text_of_ofText? hk], h⟩

/-- **A block goes to the grammar of its first token.** -/
theorem parse_of_head {t : Text} {k : Keyword} (h : (tokenize (trim t)).head? = some k.text) :
    ∃ parts, parse t = readBlock parseLine k parts (trim t) := by
  obtain ⟨parts, htokens⟩ := List.head?_eq_some_iff.mp h
  exact ⟨parts, by simp only [parse, parseWith, htokens, Keyword.ofText?_text]⟩

@[simp] theorem parse_trim (t : Text) : parse (trim t) = parse t := by
  simp only [parse, parseWith, trim_trim]

theorem head_tokenize_of_parse {t : Text} {w : Widget} (h : parse t = .ok w) :
    (tokenize (trim t)).head? = some w.keyword.text := by
  obtain ⟨parts, htokens, -⟩ := parseWith_eq_ok h
  rw [htokens]
  rfl

/-- **The first word and the first token name the same keyword**, whenever a parse succeeds. -/
theorem keyword_of_parse {t : Text} {k : Keyword} {w : Widget}
    (hk : Keyword.ofText? (Keyword.leadingWord (trim t)) = some k) (h : parse t = .ok w) :
    w.keyword = k :=
  (Keyword.eq_of_leadingWord_of_head (Keyword.ofText?_eq_some_iff.mp hk)
    (head_tokenize_of_parse h)).symm

end Grammar

end Widgetry
