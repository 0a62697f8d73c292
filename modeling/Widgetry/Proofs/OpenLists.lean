import Widgetry.Proofs.Convergence
import Widgetry.Proofs.LineGrammar
import Widgetry.Proofs.WrittenLines

/-!
# Lists that are still arriving

The text of a list of choices may be cut anywhere between the brackets of its array. What has arrived
by then are some items and perhaps the beginning of one more (`arrived`). The stream trims the text
and closes what is open, and that is the written line of the items that have arrived
(`complete_cut`), so it shows them (`stream_of_cut`). Where more has arrived, no fewer items are shown
(`stream_open_list`).
-/

namespace Widgetry

open Text

/-! ## Open spans -/

namespace OpenSpan

theorem foldl_step_of_not_mem {q : Char} {t : Text} (ht : q ∉ t) (depth : Int) :
    t.foldl step ⟨some q, depth⟩ = ⟨some q, depth⟩ := by
  induction t with
  | nil => rfl
  | cons c t ih =>
    rw [List.mem_cons, not_or] at ht
    have hstep : step ⟨some q, depth⟩ c = ⟨some q, depth⟩ := by simp [step, Ne.symm ht.1]
    rw [List.foldl_cons, hstep, ih ht.2]

theorem step_quote (depth : Int) : step ⟨none, depth⟩ '"' = ⟨some '"', depth⟩ := rfl

theorem step_space (depth : Int) : step ⟨none, depth⟩ ' ' = ⟨none, depth⟩ := rfl

/-- A text in quotes leaves open what was open. -/
theorem foldl_step_quoted {t : Text} (ht : '"' ∉ t) (depth : Int) :
    (Writer.quoted t).foldl step ⟨none, depth⟩ = ⟨none, depth⟩ := by
  rw [Writer.quoted, List.cons_append, List.foldl_cons, step_quote, List.foldl_append,
    foldl_step_of_not_mem ht]
  rfl

end OpenSpan

namespace Streaming

open Writer

/-! ## Lists of choices -/

/-- The widgets that are an id and a list of choices. -/
inductive ListKind where
  | buttonGroup
  | select
  | selectMulti
deriving Repr, DecidableEq

namespace ListKind

def keyword : ListKind → Keyword
  | buttonGroup => .buttonGroup
  | select => .select
  | selectMulti => .selectMulti

/-- The widget with nothing but an id and choices. -/
def widget (kind : ListKind) (name : Text) (choices : List Text) : Widget :=
  match kind with
  | buttonGroup => .buttonGroup ⟨name, none, choices, none⟩
  | select => .select ⟨name, none, choices, none⟩
  | selectMulti => .selectMulti ⟨name, none, choices, none⟩

theorem keyword_widget (kind : ListKind) (name : Text) (choices : List Text) :
    (kind.widget name choices).keyword = kind.keyword := by
  cases kind <;> rfl

/-- The line of the widget as far as the bracket that opens its array. -/
def opening (kind : ListKind) (name : Text) : Text :=
  kind.keyword.text ++ ' ' :: quoted name ++ " [".toList

end ListKind

/-- Items in quotes, with single spaces between them. -/
def row (items : List Text) : Text := [' '].intercalate (items.map quoted)

theorem row_cons {items : List Text} (hne : items ≠ []) (item : Text) :
    row (item :: items) = quoted item ++ ' ' :: row items := by
  obtain ⟨next, rest, rfl⟩ := List.exists_cons_of_ne_nil hne
  rw [row, List.map_cons, List.map_cons, List.intercalate_cons_cons, List.append_assoc,
    List.singleton_append]
  rfl

theorem line_widget (kind : ListKind) (name : Text) (items : List Text) :
    line (kind.widget name items) = kind.opening name ++ (row items ++ [']']) := by
  have hspaced : line (kind.widget name items) =
      [' '].intercalate [kind.keyword.text, quoted name, array items] := by
    rw [line, kind.keyword_widget]
    cases kind <;> rfl
  rw [hspaced]
  simp [ListKind.opening, array, row]

/-! ## What has arrived -/

/-- The items that have arrived in a cut of their row; the last one may be unfinished. -/
def arrived : List Text → Text → List Text
  | [], _ => []
  | _ :: _, [] => []
  | item :: items, _ :: rest =>
    if rest.length ≤ item.length then [trimEnd rest]
    else item :: arrived items (rest.drop (item.length + 2))

/-- The items that have arrived and are not empty. -/
def shown (items : List Text) (cut : Text) : List Text := (arrived items cut).filter (· ≠ [])

@[simp] theorem arrived_nil (items : List Text) : arrived items [] = [] := by
  cases items <;> rfl

theorem arrived_quoted (item : Text) (items : List Text) (rest : Text) :
    arrived (item :: items) ('"' :: (item ++ '"' :: rest)) = item :: arrived items (rest.drop 1) := by
  have hlong : ¬ (item ++ '"' :: rest).length ≤ item.length := by simp
  have hdrop : (item ++ '"' :: rest).drop (item.length + 2) = rest.drop 1 := by
    rw [List.drop_length_add_append]
    rfl
  rw [arrived, if_neg hlong, hdrop]

theorem prefix_append_cases {a b p : Text} (h : p <+: a ++ b) :
    p <+: a ∨ ∃ q, q <+: b ∧ p = a ++ q := by
  obtain ⟨t, ht⟩ := h
  rcases List.append_eq_append_iff.mp ht with ⟨q, ha, -⟩ | ⟨q, hp, hb⟩
  · exact Or.inl ⟨q, ha.symm⟩
  · exact Or.inr ⟨q, ⟨t, hb.symm⟩, hp⟩

/-- A cut of a row: nothing, an item that is not closed, or an item and a cut of the others. -/
theorem cut_cases {item : Text} {items : List Text} {cut : Text}
    (h : cut <+: row (item :: items)) :
    cut = [] ∨
      (∃ p, p <+: item ∧ cut = '"' :: p ∧ arrived (item :: items) cut = [trimEnd p]) ∨
      ∃ rest, rest <+: row items ∧
        ((cut = quoted item ∧ rest = []) ∨ (items ≠ [] ∧ cut = quoted item ++ ' ' :: rest)) ∧
        arrived (item :: items) cut = item :: arrived items rest := by
  cases cut with
  | nil => exact Or.inl rfl
  | cons c cut =>
    have hfirst : ∃ more, row (item :: items) = '"' :: (item ++ '"' :: more) ∧
        ∀ r, r <+: more → r = [] ∨ ∃ rest, items ≠ [] ∧ rest <+: row items ∧ r = ' ' :: rest := by
      by_cases hitems : items = []
      · exact ⟨[], by rw [hitems]; simp [row, quoted],
          fun r hr => Or.inl (List.prefix_nil.mp hr)⟩
      · refine ⟨' ' :: row items, by rw [row_cons hitems]; simp [quoted], fun r hr => ?_⟩
        rcases List.prefix_cons_iff.mp hr with hnil | ⟨rest, hrest, hpre⟩
        · exact Or.inl hnil
        · exact Or.inr ⟨rest, hitems, hpre, hrest⟩
    obtain ⟨more, hrow, hmore⟩ := hfirst
    rw [hrow, List.cons_prefix_cons] at h
    obtain ⟨rfl, h⟩ := h
    -- the cut ends in the item, right behind it, or behind the quote that closes it
    rcases prefix_append_cases h with hp | ⟨q, hq, rfl⟩
    · exact Or.inr (Or.inl ⟨cut, hp, rfl, by rw [arrived, if_pos hp.length_le]⟩)
    rcases List.prefix_cons_iff.mp hq with rfl | ⟨r, rfl, hr⟩
    · refine Or.inr (Or.inl ⟨item, List.prefix_rfl, by rw [List.append_nil], ?_⟩)
      rw [List.append_nil, arrived, if_pos le_rfl]
    · refine Or.inr (Or.inr ?_)
      have harrived := arrived_quoted item items r
      rcases hmore r hr with rfl | ⟨rest, hitems, hrest, rfl⟩
      · exact ⟨[], List.nil_prefix, Or.inl ⟨by simp [quoted], rfl⟩, harrived⟩
      · exact ⟨rest, hrest, Or.inr ⟨hitems, by simp [quoted]⟩, harrived⟩

/-- **What has arrived are the first items, and perhaps the beginning of one more.** -/
theorem arrived_eq {items : List Text} {cut : Text} (h : cut <+: row items) :
    ∃ j, arrived items cut = items.take j ∨
      ∃ item p, items[j]? = some item ∧ p <+: item ∧
        arrived items cut = items.take j ++ [trimEnd p] := by
  induction items generalizing cut with
  | nil => exact ⟨0, Or.inl rfl⟩
  | cons item items ih =>
    rcases cut_cases h with rfl | ⟨p, hp, -, harrived⟩ | ⟨rest, hrest, -, harrived⟩
    · exact ⟨0, Or.inl rfl⟩
    · exact ⟨0, Or.inr ⟨item, p, rfl, hp, harrived⟩⟩
    · obtain ⟨j, hj | ⟨item', p, hitem', hp, hj⟩⟩ := ih hrest
      · exact ⟨j + 1, Or.inl (by rw [harrived, hj, List.take_succ_cons])⟩
      · exact ⟨j + 1, Or.inr ⟨item', p, hitem', hp, by rw [harrived, hj, List.take_succ_cons]; rfl⟩⟩

theorem prefix_trimEnd (t : Text) : trimEnd t <+: t := by
  obtain ⟨b, -, ht⟩ := exists_trimEnd_append t
  exact ⟨b, ht.symm⟩

/-- The beginning of a trimmed text, trimmed at its own end. -/
theorem trimmed_trimEnd {t p : Text} (ht : Trimmed t) (hp : p <+: t) : Trimmed (trimEnd p) := by
  refine ⟨?_, getLast_trimEnd⟩
  intro c hc
  obtain ⟨r, rfl⟩ := (prefix_trimEnd p).trans hp
  apply ht.front
  rw [Option.mem_def] at hc ⊢
  rw [List.head?_append, hc]
  rfl

/-- Whatever characters the items lack, the items that have arrived lack them too. -/
theorem arrived_forall {items : List Text} {cut : Text} (h : cut <+: row items)
    (htrimmed : ∀ x ∈ items, Trimmed x) :
    ∀ a ∈ arrived items cut, Trimmed a ∧ ∃ x ∈ items, a <+: x := by
  intro a ha
  have htake : ∀ j, a ∈ items.take j → Trimmed a ∧ ∃ x ∈ items, a <+: x := fun j hmem =>
    ⟨htrimmed a (List.mem_of_mem_take hmem), a, List.mem_of_mem_take hmem, List.prefix_rfl⟩
  obtain ⟨j, hj | ⟨item, p, hitem, hp, hj⟩⟩ := arrived_eq h
  · rw [hj] at ha
    exact htake j ha
  · rw [hj, List.mem_append, List.mem_singleton] at ha
    rcases ha with ha | rfl
    · exact htake j ha
    · have hmem := List.mem_of_getElem? hitem
      exact ⟨trimmed_trimEnd (htrimmed item hmem) hp, item, hmem, (prefix_trimEnd p).trans hp⟩

/-! ## Monotonicity -/

theorem trimEnd_ne_nil_of_longer {p q : Text} (h : p <+: q) (hp : trimEnd p ≠ []) :
    trimEnd q ≠ [] := by
  intro hq
  obtain ⟨b, hb, hqb⟩ := exists_trimEnd_append q
  rw [hq, List.nil_append] at hqb
  exact hp (trimEnd_of_blank fun c hc => hb c (hqb ▸ h.subset hc))

/-- **A longer cut never shows fewer items.** -/
theorem length_shown_mono {items : List Text} (hitems : ∀ x ∈ items, x ≠ []) {cut longer : Text}
    (hcut : cut <+: longer) (h : longer <+: row items) :
    (shown items cut).length ≤ (shown items longer).length := by
  induction items generalizing cut longer with
  | nil => exact le_rfl
  | cons item items ih =>
    have hitem := hitems item List.mem_cons_self
    have hkept : ∀ rest, (item :: arrived items rest).filter (· ≠ []) = item :: shown items rest :=
      fun rest => by simp [shown, hitem]
    rcases cut_cases (hcut.trans h) with
      rfl | ⟨p, hp, rfl, harrived⟩ | ⟨rest, hrest, hform, harrived⟩
    · simp [shown]
    · -- the open item is shown alone, and only if it has ink, which a longer cut keeps
      rw [shown, harrived]
      by_cases hnil : trimEnd p = []
      · simp [hnil]
      rcases cut_cases h with rfl | ⟨q, hq, rfl, hlonger⟩ | ⟨rest, -, -, hlonger⟩
      · exact absurd (List.prefix_nil.mp hcut) (by simp)
      · have hpq : p <+: q := (List.cons_prefix_cons.mp hcut).2
        have hne := trimEnd_ne_nil_of_longer hpq hnil
        rw [shown, hlonger]
        simp [hnil, hne]
      · rw [shown, hlonger, hkept]
        simp [hnil]
    · -- the closed item is shown in both cuts, and the induction compares what comes behind it
      have hlength : item.length + 2 ≤ cut.length := by
        rcases hform with ⟨rfl, -⟩ | ⟨-, rfl⟩
        · simp [quoted]
        · simp [quoted]
      rcases cut_cases h with rfl | ⟨q, hq, rfl, -⟩ | ⟨rest', hrest', hform', hlonger⟩
      · exact absurd (hcut.length_le.trans' hlength) (by simp)
      · -- an item that is closed cannot be open in the longer cut
        have hle := hcut.length_le
        have hqle := hq.length_le
        rw [List.length_cons] at hle
        omega
      · rw [shown, shown, harrived, hlonger, hkept, hkept, List.length_cons, List.length_cons]
        refine Nat.succ_le_succ (ih (fun x hx => hitems x (List.mem_cons_of_mem item hx)) ?_ hrest')
        rcases hform with ⟨-, rfl⟩ | ⟨-, rfl⟩
        · exact List.nil_prefix
        · rcases hform' with ⟨rfl, -⟩ | ⟨-, rfl⟩
          · have hle := hcut.length_le
            rw [List.length_append, List.length_cons] at hle
            omega
          · rw [List.prefix_append_right_inj, List.cons_prefix_cons] at hcut
            exact hcut.2

/-! ## Completing a cut -/

theorem arrived_ne_nil {items : List Text} (hitems : items ≠ []) {cut : Text} (hcut : cut ≠ []) :
    arrived items cut ≠ [] := by
  obtain ⟨item, rest, rfl⟩ := List.exists_cons_of_ne_nil hitems
  obtain ⟨c, cut, rfl⟩ := List.exists_cons_of_ne_nil hcut
  rw [arrived]
  split
  · simp
  · simp

/-- A cut of a row begins with a quote. -/
theorem not_blank_of_cut {items : List Text} {cut : Text} (h : cut <+: row items)
    (hcut : cut ≠ []) : ¬ Blank cut := by
  have hquote : '"' ∈ cut := by
    cases items with
    | nil => exact absurd (List.prefix_nil.mp h) hcut
    | cons item items =>
      rcases cut_cases h with rfl | ⟨p, -, rfl, -⟩ | ⟨rest, -, ⟨rfl, -⟩ | ⟨-, rfl⟩, -⟩
      · exact absurd rfl hcut
      · simp
      · simp [quoted]
      · simp [quoted]
  exact fun hblank => absurd (hblank '"' hquote) (by decide)

/-- **Closing the quote that is open makes a row of what has arrived.** -/
theorem exists_quote_of_cut {items : List Text} (hitems : ∀ x ∈ items, '"' ∉ x) {cut : Text}
    (h : cut <+: row items) :
    ∃ quote : Option Char, cut.foldl OpenSpan.step ⟨none, 1⟩ = ⟨quote, 1⟩ ∧
      trimEnd cut ++ quote.toList = row (arrived items cut) := by
  induction items generalizing cut with
  | nil =>
    obtain rfl := List.prefix_nil.mp h
    exact ⟨none, rfl, rfl⟩
  | cons item items ih =>
    have hitem := hitems item List.mem_cons_self
    rcases cut_cases h with rfl | ⟨p, hp, rfl, harrived⟩ | ⟨rest, hrest, hform, harrived⟩
    · exact ⟨none, rfl, rfl⟩
    · -- the item is open, and blanks at its end are trimmed before its quote is closed
      refine ⟨some '"', ?_, ?_⟩
      · rw [List.foldl_cons, OpenSpan.step_quote]
        exact OpenSpan.foldl_step_of_not_mem (fun hmem => hitem (hp.subset hmem)) 1
      · have htrim : trimEnd ('"' :: p) = '"' :: trimEnd p :=
          trimEnd_append (a := ['"']) (by simp; decide) p
        rw [harrived, htrim]
        simp [row, quoted]
    · obtain ⟨quote, hfold, hrow⟩ := ih (fun x hx => hitems x (List.mem_cons_of_mem item hx)) hrest
      have hback := (scalar_quoted item).trimmed.back
      refine ⟨quote, ?_, ?_⟩
      · rcases hform with ⟨rfl, rfl⟩ | ⟨-, rfl⟩
        · rw [OpenSpan.foldl_step_quoted hitem, ← hfold, List.foldl_nil]
        · rw [List.foldl_append, OpenSpan.foldl_step_quoted hitem, List.foldl_cons,
            OpenSpan.step_space, hfold]
      · rw [harrived]
        by_cases hnil : rest = []
        · -- nothing comes after the item but perhaps a space
          rw [hnil] at hform hfold
          obtain rfl : quote = none := (OpenSpan.mk.inj hfold).1.symm
          have htrim : trimEnd cut = quoted item := by
            rcases hform with ⟨rfl, -⟩ | ⟨-, rfl⟩
            · exact trimEnd_eq_self hback
            · rw [trimEnd_append hback, trimEnd_of_blank (by decide), List.append_nil]
          rw [htrim, hnil, arrived_nil]
          simp [row]
        · obtain ⟨hne, rfl⟩ := hform.resolve_left fun hclosed => hnil hclosed.2
          have hspace : trimEnd (' ' :: rest) = ' ' :: trimEnd rest :=
            trimEnd_append_of_ink (not_blank_of_cut hrest hnil) [' ']
          rw [trimEnd_append hback, hspace, row_cons (arrived_ne_nil hne hnil), ← hrow]
          simp

/-! ## The stream -/

section Stream

variable {kind : ListKind} {name : Text}

/-- The line of a list of choices is read, whether or not its last item has begun. -/
theorem parse_line_widget (hname : Quotable name) {xs : List Text}
    (h : ∀ x ∈ xs, (Trimmed x ∧ '"' ∉ x) ∧ '[' ∉ x ∧ ']' ∉ x) :
    Grammar.parse (line (kind.widget name xs)) =
      .ok (kind.widget name (xs.filter (· ≠ []))) := by
  have harray := readAs_array fun x hx => (h x hx).2
  have hparse := ArrayLiteral.parse_array fun x hx => (h x hx).1
  have hrel : List.Forall₂ (Option.Rel ReadAs) [some (quoted name), some (array xs), none]
      [some name, some (array xs), none] :=
    .cons (.some (readAs_quoted hname)) (.cons (.some harray) (.cons .none .nil))
  have hchoices : ∀ k, Grammar.readChoiceInput k [name, array xs] =
      .ok ⟨name, none, xs.filter (· ≠ []), none⟩ := fun k =>
    Grammar.readChoiceInput_eq_ok_iff.mpr ⟨name, array xs, [], _, rfl, hparse, rfl⟩
  cases kind with
  | buttonGroup =>
    exact (parseWith_spaced hrel).trans (congrArg (Except.map Widget.buttonGroup) (hchoices _))
  | select => exact (parseWith_spaced hrel).trans (congrArg (Except.map Widget.select) (hchoices _))
  | selectMulti =>
    have hmulti : Grammar.readMultiSelect [name, array xs] =
        .ok ⟨name, none, xs.filter (· ≠ []), none⟩ :=
      Grammar.readMultiSelect_eq_ok_iff.mpr
        ⟨name, array xs, [], _, none, rfl, hparse, Or.inl ⟨rfl, rfl⟩, rfl⟩
    exact (parseWith_spaced hrel).trans (congrArg (Except.map Widget.selectMulti) hmulti)

theorem leadingWord_opening (kind : ListKind) (name cut : Text) :
    Keyword.leadingWord (kind.opening name ++ cut) = kind.keyword.text := by
  have hword : kind.opening name ++ cut =
      (kind.keyword.text ++ [' ']) ++ (quoted name ++ " [".toList ++ cut) := by
    simp [ListKind.opening]
  rw [hword, Keyword.leadingWord_append_of_blank (c := ' ') (by simp) rfl,
    Keyword.leadingWord_append_of_blank_right (by decide), Keyword.leadingWord_text]

theorem trim_cut (cut : Text) :
    trim (kind.opening name ++ cut) = kind.opening name ++ trimEnd cut := by
  have hword := leadingWord_opening kind name cut
  have hfront : ∀ c ∈ (kind.opening name ++ cut).head?, isBlank c = false :=
    Keyword.front_of_leadingWord_ne_nil (by rw [hword]; exact Keyword.text_ne_nil _)
  have hback : ∀ c ∈ (kind.opening name).getLast?, isBlank c = false := by
    rw [ListKind.opening, List.getLast?_append_of_ne_nil _ (by decide)]
    rintro c ⟨⟩
    rfl
  rw [trim, trimStart_eq_self hfront, trimEnd_append hback]

theorem ofText_opening (hname : '"' ∉ name) : OpenSpan.ofText (kind.opening name) = ⟨none, 1⟩ := by
  rw [ListKind.opening, OpenSpan.ofText_append, OpenSpan.ofText_append, OpenSpan.ofText_keyword,
    List.foldl_cons, OpenSpan.start, OpenSpan.step_space, OpenSpan.foldl_step_quoted hname]
  rfl

variable {items : List Text}

/-- What is open in a cut, and what closing it makes. -/
theorem complete_cut (kind : ListKind) (hname : '"' ∉ name) (hitems : ∀ x ∈ items, '"' ∉ x) {cut : Text}
    (h : cut <+: row items) :
    (OpenSpan.ofText (trim (kind.opening name ++ cut))).depth = 1 ∧
      complete (trim (kind.opening name ++ cut)) =
        line (kind.widget name (arrived items cut)) := by
  obtain ⟨quote, hfold, hrow⟩ := exists_quote_of_cut hitems h
  have hopen : OpenSpan.ofText (trim (kind.opening name ++ cut)) = ⟨quote, 1⟩ := by
    rw [ofText_trim, OpenSpan.ofText_append, ofText_opening hname, hfold]
  refine ⟨by rw [hopen], ?_⟩
  have hclosing : OpenSpan.closing ⟨quote, 1⟩ = quote.toList ++ [']'] := rfl
  rw [complete, hopen, hclosing, trim_cut, line_widget, ← hrow]
  simp

theorem previewLine_of_complete (word : Text) {source : Text} {w : Widget}
    (hopen : (OpenSpan.ofText source).bracketOpen = true)
    (hparse : Grammar.parse (complete source) = .ok w) :
    previewLine word source (pendingOf source) =
      unfinished word (.widget w) { Pending.unstated with unclosedBracket := true } := by
  have hpending : (pendingOf source).unclosedBracket = some true := congrArg some hopen
  simp only [previewLine, hpending, if_true, hparse, Except.toOption]

/-- **A list that is cut shows what has arrived of it.** -/
theorem stream_of_cut (hname : Quotable name)
    (hitems : ∀ x ∈ items, Quotable x ∧ '[' ∉ x ∧ ']' ∉ x) {cut : Text} (h : cut <+: row items) :
    stream (kind.opening name ++ cut) =
      .ok ⟨false, kind.keyword.text, some (.widget (kind.widget name (shown items cut))),
        some { Pending.unstated with unclosedBracket := true }, none⟩ := by
  obtain ⟨hdepth, hcomplete⟩ := complete_cut kind hname.unquoted
    (fun x hx => (hitems x hx).1.unquoted) h
  have hopen : (OpenSpan.ofText (trim (kind.opening name ++ cut))).bracketOpen = true := by
    rw [OpenSpan.bracketOpen, hdepth]
    rfl
  have hparse : Grammar.parse (complete (trim (kind.opening name ++ cut))) =
      .ok (kind.widget name (shown items cut)) := by
    rw [hcomplete]
    apply parse_line_widget hname
    intro a ha
    obtain ⟨htrimmed, x, hx, hax⟩ :=
      arrived_forall h (fun x hx => (hitems x hx).1.trimmed) a ha
    obtain ⟨hquotable, hopening, hclosing⟩ := hitems x hx
    exact ⟨⟨htrimmed, fun hc => hquotable.unquoted (hax.subset hc)⟩,
      fun hc => hopening (hax.subset hc), fun hc => hclosing (hax.subset hc)⟩
  have hword : Keyword.leadingWord (trim (kind.opening name ++ cut)) = kind.keyword.text := by
    rw [trim_cut, leadingWord_opening]
  -- the first word is a keyword and the bracket is open, so the block is previewed
  rcases stream_cases (kind.opening name ++ cut) with
    ⟨hnil, -⟩ | ⟨-, hnone, -⟩ | ⟨k, hk, ⟨w, hfin, -⟩ | ⟨-, hs⟩⟩
  · rw [hnil] at hword
    exact absurd hword.symm (Keyword.text_ne_nil _)
  · rw [hword, Keyword.ofText?_text] at hnone
    exact absurd hnone (by simp)
  · obtain ⟨⟨hbracket, -⟩, -⟩ := finished?_eq_some_iff.mp hfin
    exact absurd (hopen.symm.trans hbracket) (by simp)
  · obtain rfl := Keyword.text_injective (hk.symm.trans hword)
    rw [hs, preview, Keyword.ofText?_text]
    have hline := previewLine_of_complete kind.keyword.text hopen hparse
    cases kind <;> exact congrArg Except.ok hline

/-- The text ends between the brackets of the array. -/
def EndsInside (kind : ListKind) (name : Text) (items : List Text) (t : Text) : Prop :=
  kind.opening name <+: t ∧ t <+: line (kind.widget name items) ∧
    t ≠ line (kind.widget name items)

theorem endsInside_iff {t : Text} :
    EndsInside kind name items t ↔ ∃ cut, cut <+: row items ∧ t = kind.opening name ++ cut := by
  rw [EndsInside, line_widget]
  constructor
  · rintro ⟨⟨cut, rfl⟩, hline, hne⟩
    rw [List.prefix_append_right_inj, List.prefix_concat_iff] at hline
    refine ⟨cut, hline.resolve_left ?_, rfl⟩
    rintro rfl
    exact hne rfl
  · rintro ⟨cut, hcut, rfl⟩
    refine ⟨List.prefix_append _ _, ?_, ?_⟩
    · rw [List.prefix_append_right_inj, List.prefix_concat_iff]
      exact Or.inr hcut
    · intro heq
      have hlength := hcut.length_le
      rw [List.append_cancel_left heq, List.length_append, List.length_singleton] at hlength
      omega

/-- What is shown are the first items, and perhaps the beginning of one more. -/
theorem shown_eq (hitems : ∀ x ∈ items, x ≠ []) {cut : Text} (h : cut <+: row items) :
    ∃ j, shown items cut = items.take j ∨
      ∃ item p, items[j]? = some item ∧ p ≠ [] ∧ p <+: item ∧
        shown items cut = items.take j ++ [p] := by
  have htake : ∀ j, (items.take j).filter (· ≠ []) = items.take j := fun j =>
    filter_ne_nil fun x hx => hitems x (List.mem_of_mem_take hx)
  obtain ⟨j, hj | ⟨item, p, hitem, hp, hj⟩⟩ := arrived_eq h
  · exact ⟨j, Or.inl (by rw [shown, hj, htake])⟩
  · rw [shown, hj, List.filter_append, htake]
    by_cases hnil : trimEnd p = []
    · exact ⟨j, Or.inl (by simp [hnil])⟩
    · exact ⟨j, Or.inr ⟨item, trimEnd p, hitem, hnil, (prefix_trimEnd p).trans hp,
        by simp [hnil]⟩⟩

/-- The choices shown for a text that ends inside the array are the first items, perhaps with a
beginning of the next one, and where more has arrived, no fewer are shown. -/
structure Truthful (kind : ListKind) (name : Text) (items : List Text)
    (choices : Text → List Text) : Prop where
  stream_eq : ∀ t, EndsInside kind name items t →
    stream t = .ok ⟨false, kind.keyword.text, some (.widget (kind.widget name (choices t))),
      some { Pending.unstated with unclosedBracket := true }, none⟩
  beginning : ∀ t, EndsInside kind name items t →
    ∃ j, choices t = items.take j ∨
      ∃ item p, items[j]? = some item ∧ p ≠ [] ∧ p <+: item ∧ choices t = items.take j ++ [p]
  monotone : ∀ t longer, EndsInside kind name items t → EndsInside kind name items longer →
    t <+: longer → (choices t).length ≤ (choices longer).length

/-- **A list is shown truthfully while it arrives**, wherever its text is cut between the brackets. -/
theorem stream_open_list (hname : Quotable name)
    (hitems : ∀ x ∈ items, Quotable x ∧ '[' ∉ x ∧ ']' ∉ x) :
    ∃ choices, Truthful kind name items choices := by
  have hne : ∀ x ∈ items, x ≠ [] := fun x hx => (hitems x hx).1.ne_nil
  refine ⟨fun t => shown items (t.drop (kind.opening name).length), ?_, ?_, ?_⟩
  · intro t ht
    obtain ⟨cut, hcut, rfl⟩ := endsInside_iff.mp ht
    rw [List.drop_left]
    exact stream_of_cut hname hitems hcut
  · intro t ht
    obtain ⟨cut, hcut, rfl⟩ := endsInside_iff.mp ht
    simp only [List.drop_left]
    exact shown_eq hne hcut
  · intro t longer ht hlonger hpre
    obtain ⟨cut, -, rfl⟩ := endsInside_iff.mp ht
    obtain ⟨cut', hcut', rfl⟩ := endsInside_iff.mp hlonger
    rw [List.prefix_append_right_inj] at hpre
    simp only [List.drop_left]
    exact length_shown_mono hne hpre hcut'

/-- A text that ends in an item, after the space behind its comma. -/
theorem stream_open_list_select :
    EndsInside .select "en v".toList ["it\x27s".toList, "a, b".toList]
        "select \"en v\" [\"it\x27s\" \"a, ".toList ∧
      ∃ choices, Truthful .select "en v".toList ["it\x27s".toList, "a, b".toList] choices :=
  ⟨⟨by decide, by decide, by decide⟩, stream_open_list (by decide) (by decide)⟩

end Stream

end Streaming

end Widgetry
