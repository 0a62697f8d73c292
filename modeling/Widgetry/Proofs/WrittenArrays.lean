import Widgetry.Proofs.Items
import Widgetry.Writer.Line

/-!
# Arrays that have been written

A written item leaves its text behind in the item scanner, whichever dialect reads it
(`leaves_quoted`, `leaves_writeItem`), and the space after it finishes the item. So the items of a
line of written items are those that are not empty (`items_intercalate`). An array is read in the
liberal dialect, written canonically and read again (`parse_of_bracketed`), and so a written array
gives its items back (`parse_array`).
-/

namespace Widgetry

open Text

/-! ## Texts in a row -/

namespace Text

/-- What stands between two scalars does not matter. -/
theorem scalar_append {a b : Text} (ha : Scalar a) (m : Text) (hb : Scalar b) :
    Scalar (a ++ m ++ b) := by
  refine ⟨by simp [ha.ne_nil], ?_, ?_⟩
  · rw [List.append_assoc, List.head?_append_of_ne_nil _ ha.ne_nil]
    exact ha.trimmed.front
  · rw [List.getLast?_append_of_ne_nil _ hb.ne_nil]
    exact hb.trimmed.back

theorem scalar_intercalate {pieces : List Text} (h : ∀ piece ∈ pieces, Scalar piece)
    (hne : pieces ≠ []) : Scalar ([' '].intercalate pieces) := by
  induction pieces with
  | nil => exact absurd rfl hne
  | cons piece pieces ih =>
    have hpiece := h piece List.mem_cons_self
    cases pieces with
    | nil => simpa using hpiece
    | cons next pieces =>
      rw [List.intercalate_cons_cons]
      exact scalar_append hpiece _ (ih (fun p hp => h p (List.mem_cons_of_mem piece hp)) (by simp))

theorem trimmed_intercalate {pieces : List Text} (h : ∀ piece ∈ pieces, Scalar piece) :
    Trimmed ([' '].intercalate pieces) := by
  by_cases hne : pieces = []
  · rw [hne]
    exact trimmed_nil
  · exact (scalar_intercalate h hne).trimmed

/-- A row of pieces has the characters of the pieces, apart from the separator. -/
theorem count_intercalate {c sep : Char} (h : c ≠ sep) (pieces : List Text) :
    ([sep].intercalate pieces).count c = pieces.flatten.count c := by
  induction pieces with
  | nil => rfl
  | cons piece pieces ih =>
    cases pieces with
    | nil => simp
    | cons next pieces =>
      have hsep : [sep].count c = 0 := List.count_eq_zero.mpr (by simpa using h)
      rw [List.intercalate_cons_cons, List.flatten_cons]
      simp only [List.count_append, ih, hsep, Nat.add_zero]

/-- A row of pieces has no characters but those of the pieces and the separator. -/
theorem not_mem_intercalate {c sep : Char} (hsep : c ≠ sep) {pieces : List Text}
    (h : ∀ piece ∈ pieces, c ∉ piece) : c ∉ [sep].intercalate pieces := by
  have hflatten : c ∉ pieces.flatten := by
    intro hmem
    obtain ⟨piece, hpiece, hc⟩ := List.mem_flatten.mp hmem
    exact h piece hpiece hc
  rwa [← List.count_eq_zero, count_intercalate hsep, List.count_eq_zero]

theorem map_trim {ts : List Text} (h : ∀ t ∈ ts, Trimmed t) : ts.map trim = ts :=
  (List.map_congr_left fun t ht => trim_eq_self (h t ht)).trans (List.map_id ts)

/-- Leaving out what is empty changes nothing where nothing is. -/
theorem filter_ne_nil {xs : List Text} (h : ∀ x ∈ xs, x ≠ []) : xs.filter (· ≠ []) = xs := by
  apply List.filter_eq_self.mpr
  intro x hx
  simpa using h x hx

end Text

namespace Writer

theorem scalar_quoted (t : Text) : Scalar (quoted t) := scalar_of_ends (by decide) (by decide) t

theorem scalar_array (xs : List Text) : Scalar (array xs) :=
  scalar_of_ends (by decide) (by decide) _

/-- The text between the brackets of an array has no white space at its ends. -/
theorem trimmed_inner_array (xs : List Text) : Trimmed ([' '].intercalate (xs.map quoted)) := by
  apply trimmed_intercalate
  intro piece hpiece
  obtain ⟨x, -, rfl⟩ := List.mem_map.mp hpiece
  exact scalar_quoted x

end Writer

namespace ArrayLiteral

open ItemScan

/-! ## One item -/

/-- After the piece the scanner holds the characters of `x` and is outside of quotes. -/
def Leaves (d : Dialect) (piece x : Text) : Prop :=
  ∀ older, piece.foldl (step d) ⟨older, [], none⟩ = ⟨older, x.reverse, none⟩

/-- Characters that are kept, one by one, are all there at the end. -/
theorem foldl_step_of_kept {d : Dialect} {quote : Option Char} {older : List Text} {x : Text}
    (h : ∀ c ∈ x, ∀ current, step d ⟨older, current, quote⟩ c = ⟨older, c :: current, quote⟩)
    (current : Text) :
    x.foldl (step d) ⟨older, current, quote⟩ = ⟨older, x.reverse ++ current, quote⟩ := by
  induction x generalizing current with
  | nil => rfl
  | cons c x ih =>
    rw [List.foldl_cons, h c List.mem_cons_self, ih fun e he => h e (List.mem_cons_of_mem c he),
      List.reverse_cons, List.append_assoc, List.singleton_append]

/-- Inside quotes everything but the quote itself is kept. -/
theorem leaves_between {d : Dialect} {q : Char} (hd : q ∈ d.quotes) {x : Text} (hx : q ∉ x) :
    Leaves d (q :: x ++ [q]) x := by
  intro older
  have hopen : step d ⟨older, [], none⟩ q = ⟨older, [], some q⟩ := by simp [step, hd]
  have hkept : ∀ c ∈ x, ∀ current,
      step d ⟨older, current, some q⟩ c = ⟨older, c :: current, some q⟩ := by
    intro c hc current
    have hne : c ≠ q := fun h => hx (h ▸ hc)
    simp [step, hne]
  rw [List.cons_append, List.foldl_cons, hopen, List.foldl_append, foldl_step_of_kept hkept,
    List.append_nil]
  simp [step]

theorem leaves_quoted {d : Dialect} (hd : '"' ∈ d.quotes) {x : Text} (hx : '"' ∉ x) :
    Leaves d (Writer.quoted x) x :=
  leaves_between hd hx

/-- Outside of quotes everything but quotes and separators is kept. -/
theorem leaves_bare {d : Dialect} {x : Text} (hx : ∀ c ∈ x, c ∉ d.quotes ∧ c ∉ d.separators) :
    Leaves d x x := by
  intro older
  have hkept : ∀ c ∈ x, ∀ current,
      step d ⟨older, current, none⟩ c = ⟨older, c :: current, none⟩ := by
    intro c hc current
    obtain ⟨hquote, hseparator⟩ := hx c hc
    simp [step, hquote, hseparator]
  rw [foldl_step_of_kept hkept, List.append_nil]

theorem leaves_writeItem {x : Text} (hx : '"' ∉ x) : Leaves .canonical (writeItem x) x := by
  unfold writeItem
  split
  · exact leaves_quoted (by simp [Dialect.canonical]) hx
  · rename_i hbare
    apply leaves_bare
    intro c hc
    have hspace : ' ' ∉ x := by
      intro hmem
      exact hbare (by simp [needsQuotes, hmem])
    simp only [Dialect.canonical, List.mem_singleton]
    exact ⟨fun h => hx (h ▸ hc), fun h => hspace (h ▸ hc)⟩

theorem scalar_writeItem {x : Text} (hx : Scalar x) : Scalar (writeItem x) := by
  unfold writeItem
  split
  · exact scalar_of_ends (by decide) (by decide) x
  · exact hx

/-! ## A row of items -/

/-- A trimmed item is finished as it is, or not at all if it is empty. -/
theorem flush_of_trimmed {x : Text} (hx : Trimmed x) (older : List Text) :
    flush ⟨older, x.reverse, none⟩ = ⟨(if x = [] then older else x :: older), [], none⟩ := by
  have htrim : trim x.reverse.reverse = x := by rw [List.reverse_reverse, trim_eq_self hx]
  rcases flush_cases ⟨older, x.reverse, none⟩ with ⟨hnil, hflush⟩ | ⟨hne, hflush⟩
  · rw [htrim] at hnil
    rw [hflush, if_pos hnil]
  · rw [htrim] at hne hflush
    rw [hflush, if_neg hne]

/-- The piece is read as items, and the scanner is ready for the next one. -/
def Yields (d : Dialect) (piece : Text) (xs : List Text) : Prop :=
  ∀ older, (piece.foldl (step d) ⟨older, [], none⟩).flush = ⟨xs.reverse ++ older, [], none⟩

theorem yields_of_leaves {d : Dialect} {piece x : Text} (h : Leaves d piece x) (hx : Trimmed x) :
    Yields d piece (if x = [] then [] else [x]) := by
  intro older
  rw [h, flush_of_trimmed hx]
  by_cases hnil : x = [] <;> simp [hnil]

/-- **The items of a row of pieces** are those of the pieces. -/
theorem items_intercalate_of_yields {d : Dialect} (hspace : ' ' ∈ d.separators)
    (hquote : ' ' ∉ d.quotes) {write : Text → Text} {read : Text → List Text} {xs : List Text}
    (h : ∀ x ∈ xs, Yields d (write x) (read x)) :
    items d ([' '].intercalate (xs.map write)) = xs.flatMap read := by
  -- the scanner may start with items that it has finished before
  have hfold : ∀ older, (([' '].intercalate (xs.map write)).foldl (step d)
      ⟨older, [], none⟩).flush.items = (xs.flatMap read).reverse ++ older := by
    induction xs with
    | nil => exact fun _ => rfl
    | cons x xs ih =>
      intro older
      have hx := h x List.mem_cons_self older
      have hrest := ih (fun y hy => h y (List.mem_cons_of_mem x hy)) ((read x).reverse ++ older)
      cases xs with
      | nil =>
        rw [List.map_singleton, List.intercalate_singleton, hx]
        simp
      | cons y ys =>
        -- the space behind the piece finishes its last item, as the end of the row does
        have hopen : ((write x).foldl (step d) ⟨older, [], none⟩).quote = none := by
          rw [← quote_flush, hx]
        have hstep : step d ((write x).foldl (step d) ⟨older, [], none⟩) ' ' =
            ⟨(read x).reverse ++ older, [], none⟩ := by
          rw [← hx]
          simp [step, hopen, hspace, hquote]
        have hread : (x :: y :: ys).flatMap read = read x ++ (y :: ys).flatMap read :=
          List.flatMap_cons
        rw [List.map_cons, List.map_cons, List.intercalate_cons_cons, List.append_assoc,
          List.singleton_append, List.foldl_append, List.foldl_cons, hstep, ← List.map_cons, hrest,
          hread, List.reverse_append, List.append_assoc]
  rw [items, ItemScan.start, hfold, List.append_nil, List.reverse_reverse]

/-- **The items of a row of written items** are those that are not empty. -/
theorem items_intercalate {d : Dialect} (hspace : ' ' ∈ d.separators) (hquote : ' ' ∉ d.quotes)
    {write : Text → Text} {xs : List Text} (h : ∀ x ∈ xs, Leaves d (write x) x)
    (htrim : ∀ x ∈ xs, Trimmed x) :
    items d ([' '].intercalate (xs.map write)) = xs.filter (· ≠ []) := by
  rw [items_intercalate_of_yields hspace hquote
    fun x hx => yields_of_leaves (h x hx) (htrim x hx)]
  clear h htrim
  induction xs with
  | nil => rfl
  | cons x xs ih =>
    rw [List.flatMap_cons, ih]
    by_cases hnil : x = [] <;> simp [hnil]

/-- The canonical form has the same items. -/
theorem items_writeItems {xs : List Text} (h : ∀ x ∈ xs, Quotable x) :
    items .canonical (writeItems xs) = xs := by
  rw [writeItems, items_intercalate (by simp [Dialect.canonical]) (by decide)
    (fun x hx => leaves_writeItem (h x hx).unquoted) fun x hx => (h x hx).trimmed]
  exact filter_ne_nil fun x hx => (h x hx).ne_nil

theorem trimmed_writeItems {xs : List Text} (h : ∀ x ∈ xs, Scalar x) : Trimmed (writeItems xs) := by
  apply trimmed_intercalate
  intro piece hpiece
  obtain ⟨x, hx, rfl⟩ := List.mem_map.mp hpiece
  exact scalar_writeItem (h x hx)

/-! ## Texts in brackets -/

theorem inner_brackets (inner : Text) : Text.inner ('[' :: inner ++ [']']) = inner := by
  simp [Text.inner]

theorem isBracketed_brackets (inner : Text) : isBracketed ('[' :: inner ++ [']']) = true := by
  rw [isBracketed, List.getLast?_append_of_ne_nil _ (by simp)]
  rfl

theorem content_brackets {inner : Text} (h : Trimmed inner) :
    content ('[' :: inner ++ [']']) = inner := by
  rw [content, inner_brackets, trim_eq_self h]

/-- The items that stand between the brackets of a text. -/
def itemsOf (t : Text) : List Text := items .liberal (content t)

theorem scalar_of_mem_itemsOf {t : Text} : ∀ x ∈ itemsOf t, Scalar x :=
  fun _ h => scalar_of_mem_items h

theorem mem_of_mem_content {t : Text} {c : Char} (h : c ∈ content t) : c ∈ t :=
  List.mem_of_mem_tail (List.dropLast_subset _ (mem_of_mem_trim h))

theorem normalize_of_bracketed {t : Text} (h : isBracketed t = true) :
    normalize t = '[' :: writeItems (itemsOf t) ++ [']'] := by
  rw [normalize, if_pos h, itemsOf]
  split
  · rename_i hnil
    rw [hnil]
    rfl
  · rfl

theorem normalize_of_not_bracketed {t : Text} (h : isBracketed t = false) : normalize t = t := by
  rw [normalize, if_neg (by simp [h])]

theorem isBracketed_normalize (t : Text) : isBracketed (normalize t) = isBracketed t := by
  cases h : isBracketed t with
  | true => rw [normalize_of_bracketed h, isBracketed_brackets]
  | false => rw [normalize_of_not_bracketed h, h]

theorem content_normalize {t : Text} (h : isBracketed t = true) :
    content (normalize t) = writeItems (itemsOf t) := by
  rw [normalize_of_bracketed h, content_brackets (trimmed_writeItems scalar_of_mem_itemsOf)]

theorem parse_of_bracketed {t : Text} (h : isBracketed t = true) :
    parse t = .ok (items .canonical (writeItems (itemsOf t))) := by
  rw [parse, if_pos h, content_normalize h]
  split
  · rename_i hnil
    rw [hnil]
    rfl
  · rfl

/-! ## Arrays -/

theorem itemsOf_array {xs : List Text} (h : ∀ x ∈ xs, Trimmed x ∧ '"' ∉ x) :
    itemsOf (Writer.array xs) = xs.filter (· ≠ []) := by
  rw [itemsOf, Writer.array, content_brackets (Writer.trimmed_inner_array xs)]
  exact items_intercalate (by simp [Dialect.liberal]) (by decide)
    (fun x hx => leaves_quoted (by simp [Dialect.liberal]) (h x hx).2) fun x hx => (h x hx).1

/-- **Reading a written array gives its items back**, except for the empty ones. -/
theorem parse_array {xs : List Text} (h : ∀ x ∈ xs, Trimmed x ∧ '"' ∉ x) :
    parse (Writer.array xs) = .ok (xs.filter (· ≠ [])) := by
  have hkept : ∀ x ∈ xs.filter (· ≠ []), Quotable x := by
    intro x hx
    obtain ⟨hmem, hne⟩ := List.mem_filter.mp hx
    exact ⟨⟨by simpa using hne, (h x hmem).1⟩, (h x hmem).2⟩
  have hbrackets : isBracketed (Writer.array xs) = true := isBracketed_brackets _
  rw [parse_of_bracketed hbrackets, itemsOf_array h, items_writeItems hkept]

theorem parse_array_of_quotable {xs : List Text} (h : ∀ x ∈ xs, Quotable x) :
    parse (Writer.array xs) = .ok xs := by
  rw [parse_array fun x hx => ⟨(h x hx).trimmed, (h x hx).unquoted⟩,
    filter_ne_nil fun x hx => (h x hx).ne_nil]

end ArrayLiteral

end Widgetry
