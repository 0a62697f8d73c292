import Widgetry.Proofs.Lines
import Widgetry.Proofs.WrittenArrays

/-!
# Canonical arrays

The texts that normalizing leaves alone are those without brackets and the canonical arrays
(`normalize_eq_self_iff`): their items have no double quote, and an item with a comma has a space or
an apostrophe too, since only these put quotes around an item. What is read from a text need not be
such an item. So normalizing twice is normalizing once for some texts only
(`normalize_normalize_iff`), and reading an array gives the items that stand in it exactly if none
of them has a double quote (`parse_eq_itemsOf_iff`).
-/

namespace Widgetry

open Text

namespace ArrayLiteral

open ItemScan

/-! ## Items without quotes -/

/-- The items of a text in which no quotes have a meaning: what stands between separators. -/
def bareItems (d : Dialect) (t : Text) : List Text :=
  ((pieces (· ∈ d.separators) t).map trim).filter (· ≠ [])

theorem bareItems_of_not_mem {d : Dialect} {t : Text} (ht : ∀ c ∈ t, c ∉ d.separators) :
    bareItems d t = if trim t = [] then [] else [trim t] := by
  have hpieces : pieces (· ∈ d.separators) t = [t] := by
    rw [pieces, cut_of_not_mem (by simpa using ht)]
  rw [bareItems, hpieces]
  by_cases hnil : trim t = [] <;> simp [hnil]

theorem bareItems_append_separator {d : Dialect} {c : Char} (hc : c ∈ d.separators) (a b : Text) :
    bareItems d (a ++ c :: b) = bareItems d a ++ bareItems d b := by
  have hpieces : pieces (· ∈ d.separators) (a ++ c :: b) =
      pieces (· ∈ d.separators) a ++ pieces (· ∈ d.separators) b := by
    rw [pieces, cut_append_separator (by simpa using hc)]
    rfl
  rw [bareItems, hpieces, List.map_append, List.filter_append]
  rfl

/-- Ending an item that has no separator makes it the one item of its text. -/
theorem flush_of_bare {d : Dialect} {current : Text} (h : ∀ c ∈ current, c ∉ d.separators)
    (older : List Text) :
    flush ⟨older, current, none⟩ = ⟨(bareItems d current.reverse).reverse ++ older, [], none⟩ := by
  rw [bareItems_of_not_mem fun c hc => h c (List.mem_reverse.mp hc)]
  rcases flush_cases ⟨older, current, none⟩ with ⟨hnil, hflush⟩ | ⟨hne, hflush⟩
  · rw [hflush, if_pos hnil]
    rfl
  · rw [hflush, if_neg hne]
    rfl

theorem yields_bare {d : Dialect} {t : Text} (ht : ∀ c ∈ t, c ∉ d.quotes) :
    Yields d t (bareItems d t) := by
  -- the scanner may have read a part of the first item before
  have hfold : ∀ current older, (∀ c ∈ current, c ∉ d.separators) →
      (t.foldl (step d) ⟨older, current, none⟩).flush =
        ⟨(bareItems d (current.reverse ++ t)).reverse ++ older, [], none⟩ := by
    induction t with
    | nil =>
      intro current older hcurrent
      rw [List.foldl_nil, List.append_nil, flush_of_bare hcurrent]
    | cons c t ih =>
      intro current older hcurrent
      have hquote : c ∉ d.quotes := ht c List.mem_cons_self
      have ih := ih fun e he => ht e (List.mem_cons_of_mem c he)
      rw [List.foldl_cons]
      by_cases hc : c ∈ d.separators
      · have hstep : step d ⟨older, current, none⟩ c = flush ⟨older, current, none⟩ := by
          simp [step, hquote, hc]
        rw [hstep, flush_of_bare hcurrent, ih [] _ (by simp), bareItems_append_separator hc,
          List.reverse_append, List.append_assoc]
        rfl
      · have hstep : step d ⟨older, current, none⟩ c = ⟨older, c :: current, none⟩ := by
          simp [step, hquote, hc]
        rw [hstep, ih (c :: current) older (by simpa [hc] using hcurrent), List.reverse_cons,
          List.append_assoc, List.singleton_append]
  intro older
  exact hfold [] older (by simp)

theorem items_of_unquoted {d : Dialect} {t : Text} (ht : ∀ c ∈ t, c ∉ d.quotes) :
    items d t = bareItems d t := by
  rw [items, ItemScan.start, yields_bare ht, List.append_nil, List.reverse_reverse]

theorem not_mem_of_mem_bareItems {d : Dialect} {t x : Text} (h : x ∈ bareItems d t) :
    ∀ c ∈ x, c ∉ d.separators := by
  intro c hc
  obtain ⟨hmem, -⟩ := List.mem_filter.mp h
  obtain ⟨piece, hpiece, rfl⟩ := List.mem_map.mp hmem
  simpa using not_mem_of_mem_pieces hpiece c (mem_of_mem_trim hc)

/-! ## Written items in the liberal dialect -/

/-- The items that are read from one written item. -/
def reread (x : Text) : List Text := if needsQuotes x then [x] else bareItems .liberal x

theorem not_mem_of_not_needsQuotes {x : Text} (h : needsQuotes x = false) :
    ' ' ∉ x ∧ '\x27' ∉ x := by
  simpa [needsQuotes] using h

theorem yields_writeItem {x : Text} (hx : Quotable x) :
    Yields .liberal (writeItem x) (reread x) := by
  unfold writeItem reread
  cases hneeds : needsQuotes x with
  | true =>
    have hleaves : Leaves .liberal ('"' :: x ++ ['"']) x :=
      leaves_quoted (by simp [Dialect.liberal]) hx.unquoted
    simpa [hx.ne_nil] using yields_of_leaves hleaves hx.trimmed
  | false =>
    apply yields_bare
    intro c hc
    have hapostrophe := (not_mem_of_not_needsQuotes hneeds).2
    simp only [Dialect.liberal, List.mem_cons, List.not_mem_nil, or_false, not_or]
    exact ⟨fun h => hx.unquoted (h ▸ hc), fun h => hapostrophe (h ▸ hc)⟩

theorem items_liberal_writeItems {xs : List Text} (h : ∀ x ∈ xs, Quotable x) :
    items .liberal (writeItems xs) = xs.flatMap reread :=
  items_intercalate_of_yields (by simp [Dialect.liberal]) (by decide)
    fun x hx => yields_writeItem (h x hx)

/-- Only an item that is quoted is read again with commas. -/
theorem needsQuotes_of_mem_reread {x y : Text} (h : y ∈ reread x) (hcomma : ',' ∈ y) :
    needsQuotes y = true := by
  unfold reread at h
  split at h
  · rename_i hneeds
    obtain rfl : y = x := by simpa using h
    exact hneeds
  · exact absurd (by simp [Dialect.liberal]) (not_mem_of_mem_bareItems h _ hcomma)

theorem count_writeItems {c : Char} (hquote : c ≠ '"') (hspace : c ≠ ' ') (xs : List Text) :
    (writeItems xs).count c = xs.flatten.count c := by
  have hitem : ∀ x, (writeItem x).count c = x.count c := by
    intro x
    unfold writeItem
    split
    · simp [List.count_append, hquote.symm]
    · rfl
  rw [writeItems, count_intercalate hspace, List.count_flatten, List.count_flatten, List.map_map]
  exact congrArg List.sum (List.map_congr_left fun x _ => hitem x)

/-! ## Normalizing twice -/

/-- An item that is written so that it is read again as it is. -/
structure Settled (x : Text) : Prop extends Quotable x where
  comma : ',' ∈ x → needsQuotes x = true

theorem reread_of_settled {x : Text} (h : Settled x) : reread x = [x] := by
  unfold reread
  cases hneeds : needsQuotes x with
  | true => rfl
  | false =>
    have hspace := (not_mem_of_not_needsQuotes hneeds).1
    have hcomma : ',' ∉ x := fun hmem => by simp [h.comma hmem] at hneeds
    have hbare : ∀ c ∈ x, c ∉ Dialect.liberal.separators := by
      intro c hc
      simp only [Dialect.liberal, List.mem_cons, List.not_mem_nil, or_false, not_or]
      exact ⟨fun e => hcomma (e ▸ hc), fun e => hspace (e ▸ hc)⟩
    simp [bareItems_of_not_mem hbare, trim_eq_self h.trimmed, h.ne_nil]

/-- What is read as it was written has no double quotes, since the apostrophes are all there. -/
theorem unquoted_of_items_writeItems {xs : List Text} (h : items .liberal (writeItems xs) = xs) :
    ∀ x ∈ xs, '"' ∉ x := by
  intro x hx hquote
  have hlt := count_flatten_items_lt (h.symm ▸ hx : x ∈ items .liberal (writeItems xs)) hquote
  rw [h, count_writeItems (by decide) (by decide)] at hlt
  exact lt_irrefl _ hlt

/-- **Writing and reading keeps a list of items** exactly if they are settled. -/
theorem items_liberal_writeItems_eq_iff {xs : List Text} :
    items .liberal (writeItems xs) = xs ↔ ∀ x ∈ xs, Settled x := by
  constructor
  · intro h
    have hquotable : ∀ x ∈ xs, Quotable x := fun x hx =>
      ⟨scalar_of_mem_items (h.symm ▸ hx : x ∈ items .liberal (writeItems xs)),
        unquoted_of_items_writeItems h x hx⟩
    intro x hx
    refine ⟨hquotable x hx, ?_⟩
    -- the item has been read from a written one
    rw [← h, items_liberal_writeItems hquotable] at hx
    obtain ⟨y, -, hxy⟩ := List.mem_flatMap.mp hx
    exact needsQuotes_of_mem_reread hxy
  · intro h
    rw [items_liberal_writeItems fun x hx => (h x hx).toQuotable,
      List.flatMap_congr fun x hx => reread_of_settled (h x hx), List.flatMap_singleton']

/-- A written array of settled items. -/
def Canonical (t : Text) : Prop :=
  ∃ xs, (∀ x ∈ xs, Settled x) ∧ t = '[' :: writeItems xs ++ [']']

/-- **Normalizing leaves the canonical arrays alone**, the texts that are in no brackets, and no
other text. -/
theorem normalize_eq_self_iff (t : Text) :
    normalize t = t ↔ isBracketed t = false ∨ Canonical t := by
  constructor
  · intro h
    cases hbrackets : isBracketed t with
    | false => exact Or.inl rfl
    | true =>
      have hitems : items .liberal (writeItems (itemsOf t)) = itemsOf t := by
        rw [← content_normalize hbrackets, h, itemsOf]
      refine Or.inr ⟨itemsOf t, items_liberal_writeItems_eq_iff.mp hitems, ?_⟩
      rw [← normalize_of_bracketed hbrackets, h]
  · rintro (h | ⟨xs, hxs, rfl⟩)
    · exact normalize_of_not_bracketed h
    · have hitems : itemsOf ('[' :: writeItems xs ++ [']']) = xs := by
        rw [itemsOf, content_brackets (trimmed_writeItems fun x hx => (hxs x hx).toScalar),
          items_liberal_writeItems_eq_iff.mpr hxs]
      rw [normalize_of_bracketed (isBracketed_brackets _), hitems]

/-- Without double quotes in the items only a comma outside of quotes can be lost. -/
theorem canonical_normalize_iff {t : Text} (h : isBracketed t = true)
    (hquote : ∀ x ∈ itemsOf t, '"' ∉ x) :
    Canonical (normalize t) ↔ ∀ x ∈ itemsOf t, ',' ∈ x → needsQuotes x = true := by
  have hquotable : ∀ x ∈ itemsOf t, Quotable x := fun x hx =>
    ⟨scalar_of_mem_itemsOf x hx, hquote x hx⟩
  rw [normalize_of_bracketed h]
  constructor
  · rintro ⟨xs, hxs, htext⟩
    -- a canonical array has been written from one list of items only
    have hwritten : writeItems (itemsOf t) = writeItems xs := by simpa using htext
    have hitems : itemsOf t = xs := by
      rw [← items_writeItems hquotable, hwritten,
        items_writeItems fun x hx => (hxs x hx).toQuotable]
    intro x hx
    exact (hxs x (hitems ▸ hx)).comma
  · intro hcomma
    exact ⟨itemsOf t, fun x hx => ⟨hquotable x hx, hcomma x hx⟩, rfl⟩

/-- Without quotes there are no items with commas. -/
theorem comma_not_mem_of_unquoted {t : Text} (ht : ∀ c ∈ t, c ∉ Dialect.liberal.quotes) :
    ∀ x ∈ itemsOf t, ',' ∉ x := by
  intro x hx hcomma
  rw [itemsOf, items_of_unquoted fun c hc => ht c (mem_of_mem_content hc)] at hx
  exact not_mem_of_mem_bareItems hx ',' hcomma (by simp [Dialect.liberal])

/-- **When normalizing twice is normalizing once**: exactly if the text is in no brackets or its
normal form is a canonical array. If no item has a double quote, this says that each item with a
comma has a space or an apostrophe too; and it is so for every text without quotes. -/
theorem normalize_normalize_iff (t : Text) :
    (normalize (normalize t) = normalize t ↔ isBracketed t = false ∨ Canonical (normalize t)) ∧
      ((∀ x ∈ itemsOf t, '"' ∉ x) →
        (normalize (normalize t) = normalize t ↔
          isBracketed t = false ∨ ∀ x ∈ itemsOf t, ',' ∈ x → needsQuotes x = true)) ∧
      ((∀ c ∈ t, c ∉ Dialect.liberal.quotes) → normalize (normalize t) = normalize t) := by
  have hfixed : normalize (normalize t) = normalize t ↔
      isBracketed t = false ∨ Canonical (normalize t) := by
    rw [normalize_eq_self_iff, isBracketed_normalize]
  have hitems : (∀ x ∈ itemsOf t, '"' ∉ x) →
      (normalize (normalize t) = normalize t ↔
        isBracketed t = false ∨ ∀ x ∈ itemsOf t, ',' ∈ x → needsQuotes x = true) := by
    intro hquote
    rw [hfixed]
    cases h : isBracketed t with
    | false => simp
    | true => simp only [Bool.true_eq_false, false_or, canonical_normalize_iff h hquote]
  refine ⟨hfixed, hitems, ?_⟩
  intro ht
  have hquote : ∀ x ∈ itemsOf t, '"' ∉ x := by
    intro x hx hmem
    exact ht '"' (mem_of_mem_content (mem_of_mem_items hx hmem)) (by simp [Dialect.liberal])
  exact (hitems hquote).mpr (Or.inr fun x hx hcomma =>
    absurd hcomma (comma_not_mem_of_unquoted ht x hx))

/-- Items with a comma and a space, or a comma and an apostrophe, which stay as they are. -/
theorem normalize_normalize_spaces :
    (∀ x ∈ itemsOf "[\x27a, b\x27 \"it\x27s,\"]".toList, '"' ∉ x) ∧
      normalize (normalize "[\x27a, b\x27 \"it\x27s,\"]".toList) =
        normalize "[\x27a, b\x27 \"it\x27s,\"]".toList :=
  ⟨by decide, ((normalize_normalize_iff _).2.1 (by decide)).mpr (by decide)⟩

/-- Quotes around a comma are lost, and so is the comma when the text is normalized again. Double
quotes between apostrophes are lost too. -/
theorem not_normalize_normalize_comma :
    normalize "[\"a,b\"]".toList = "[a,b]".toList ∧ normalize "[a,b]".toList = "[a b]".toList ∧
      normalize "[\x27a\"b\x27]".toList = "[a\"b]".toList ∧
      normalize "[a\"b]".toList = "[ab]".toList ∧
      ¬ ∀ t, normalize (normalize t) = normalize t := by
  refine ⟨by decide, by decide, by decide, by decide, fun h => ?_⟩
  exact absurd (h "[\"a,b\"]".toList) (by decide)

/-! ## Reading what has been written -/

/-- **When reading an array gives the items that stand in it**: a text in brackets is always read,
as items without double quotes, and these are the items of the text exactly if none of those has a
double quote; so if the text does not have both kinds of quotes. -/
theorem parse_eq_itemsOf_iff {t : Text} (h : isBracketed t = true) :
    ∃ xs, parse t = .ok xs ∧ (∀ x ∈ xs, Quotable x) ∧
      (xs = itemsOf t ↔ ∀ x ∈ itemsOf t, '"' ∉ x) ∧
      ('"' ∉ t ∨ '\x27' ∉ t → xs = itemsOf t) := by
  have hparse := parse_of_bracketed h
  have hread := quotable_of_mem_parse hparse
  have hitems : items .canonical (writeItems (itemsOf t)) = itemsOf t ↔
      ∀ x ∈ itemsOf t, '"' ∉ x := by
    constructor
    · intro heq x hx
      exact (hread x (heq.symm ▸ hx)).unquoted
    · intro hquote
      exact items_writeItems fun x hx => ⟨scalar_of_mem_itemsOf x hx, hquote x hx⟩
  refine ⟨_, hparse, hread, hitems, ?_⟩
  intro hkinds
  apply hitems.mpr
  intro x hx hquote
  obtain ⟨hdouble, hapostrophe⟩ := mixed_of_mem_items hx hquote
  exact hkinds.elim (absurd (mem_of_mem_content hdouble))
    (absurd (mem_of_mem_content hapostrophe))

/-- Either kind of quotes around spaces and commas. -/
theorem parse_eq_itemsOf_spaces :
    parse "[\x27it, is\x27 \"b c\",d]".toList =
      .ok (itemsOf "[\x27it, is\x27 \"b c\",d]".toList) := by
  obtain ⟨xs, hparse, -, hitems, -⟩ :=
    parse_eq_itemsOf_iff (t := "[\x27it, is\x27 \"b c\",d]".toList) (by decide)
  rw [hparse, hitems.mpr (by decide)]

/-- A double quote between apostrophes is lost, and the spaces behind it are taken for others. -/
theorem not_parse_eq_itemsOf_inches :
    itemsOf "[\x275\" disk\x27 b]".toList = ["5\" disk".toList, "b".toList] ∧
      parse "[\x275\" disk\x27 b]".toList = .ok ["5".toList, "disk b".toList] ∧
      ¬ ∀ t, isBracketed t = true → parse t = .ok (itemsOf t) := by
  refine ⟨by decide, by decide, fun h => ?_⟩
  exact absurd (h "[\x275\" disk\x27 b]".toList (by decide)) (by decide)

end ArrayLiteral

end Widgetry
