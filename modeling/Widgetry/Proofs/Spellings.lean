import Widgetry.Proofs.WrittenArrays

/-!
# Spellings of an array

The same items can be spelled in many ways: each in double quotes, in apostrophes or bare, with commas
and spaces in any number between them and around them. Blanks at the ends of the inner text do not
matter (`items_trim`), a run of separators does no more than one of them (`foldl_gap`), and every
quoting leaves the item behind (`leaves_write`). So the items are read from each of their spellings,
and all spellings have one canonical form (`parse_spelling`).
-/

namespace Widgetry

open Text

namespace ArrayLiteral

open ItemScan

/-! ## Blanks at the ends -/

namespace ItemScan

@[simp] theorem flush_nil (items : List Text) (quote : Option Char) :
    flush ⟨items, [], quote⟩ = ⟨items, [], quote⟩ := rfl

@[simp] theorem flush_flush (s : ItemScan) : s.flush.flush = s.flush := by
  rcases flush_cases s with ⟨-, hflush⟩ | ⟨-, hflush⟩ <;> rw [hflush, flush_nil]

/-- Only the trimmed characters of the current item matter when it ends. -/
theorem flush_congr {items : List Text} {quote : Option Char} {current current' : Text}
    (h : trim current.reverse = trim current'.reverse) :
    flush ⟨items, current, quote⟩ = flush ⟨items, current', quote⟩ := by
  simp only [flush, h]

/-- The scanner `s'` is `s` with more blanks at the front of its current item. -/
def Padded (s s' : ItemScan) : Prop := ∃ b, Blank b ∧ s' = ⟨s.items, s.current ++ b, s.quote⟩

theorem flush_of_padded {s s' : ItemScan} (h : Padded s s') : s'.flush = s.flush := by
  obtain ⟨b, hb, rfl⟩ := h
  apply flush_congr
  have hblank : Blank b.reverse := fun c hc => hb c (List.mem_reverse.mp hc)
  rw [List.reverse_append, trim, trimStart_append_of_blank hblank, trim]

theorem padded_step (d : Dialect) {s s' : ItemScan} (h : Padded s s') (c : Char) :
    Padded (s.step d c) (s'.step d c) := by
  have hflush := flush_of_padded h
  obtain ⟨b, hb, rfl⟩ := h
  obtain ⟨items, current, quote⟩ := s
  cases quote with
  | some q =>
    simp only [step]
    split
    · exact ⟨b, hb, rfl⟩
    · exact ⟨b, hb, rfl⟩
  | none =>
    simp only [step]
    split
    · exact ⟨b, hb, rfl⟩
    · split
      · rw [hflush]
        exact ⟨[], by simp [Blank], by rw [List.append_nil]⟩
      · exact ⟨b, hb, rfl⟩

theorem padded_foldl (d : Dialect) {s s' : ItemScan} (h : Padded s s') (t : Text) :
    Padded (t.foldl (step d) s) (t.foldl (step d) s') := by
  induction t generalizing s s' with
  | nil => exact h
  | cons c t ih => exact ih (padded_step d h c)

/-- An open quote is a quote of the dialect. -/
theorem mem_quotes_of_quote_foldl {d : Dialect} {t : Text} {q : Char}
    (h : (t.foldl (step d) start).quote = some q) : q ∈ d.quotes := by
  induction t using List.reverseRecOn generalizing q with
  | nil => exact absurd h (by simp [start])
  | append_singleton t c ih =>
    rw [List.foldl_append, List.foldl_cons, List.foldl_nil] at h
    rcases step_cases d (t.foldl (step d) start) c with
      ⟨-, hstep⟩ | ⟨-, -, hstep⟩ | ⟨-, hquote, hstep⟩ | ⟨hnone, hstep⟩
    · rw [hstep] at h
      exact absurd h (by simp)
    · rw [hstep] at h
      exact ih h
    · rw [hstep] at h
      exact Option.some.inj h ▸ hquote
    · rw [hstep, quote_flush, hnone] at h
      exact absurd h (by simp)

end ItemScan

section Blanks

variable {d : Dialect} (hd : ∀ q ∈ d.quotes, isBlank q = false)
include hd

/-- Blanks in front are at most taken into the first item. -/
theorem padded_foldl_of_blank {a : Text} (ha : Blank a) :
    Padded start (a.foldl (step d) start) := by
  induction a using List.reverseRecOn with
  | nil => exact ⟨[], by simp [Blank], rfl⟩
  | append_singleton a c ih =>
    have hc : isBlank c = true := ha c (by simp)
    have ih := ih fun e he => ha e (by simp [he])
    have hflush := flush_of_padded ih
    obtain ⟨b, hb, hscan⟩ := ih
    have hquote : c ∉ d.quotes := fun h => by simp [hd c h] at hc
    rw [List.foldl_append, List.foldl_cons, List.foldl_nil]
    rw [hscan] at hflush ⊢
    simp only [step, start, if_neg hquote] at hflush ⊢
    split
    · rw [hflush]
      exact ⟨[], by simp [Blank], rfl⟩
    · exact ⟨c :: b, by simpa [Blank, hc] using hb, rfl⟩

/-- A blank at the end is trimmed from the last item, or ends it. -/
theorem flush_step_of_blank {t : Text} {c : Char} (hc : isBlank c = true) :
    (step d (t.foldl (step d) start) c).flush = (t.foldl (step d) start).flush := by
  rcases step_cases d (t.foldl (step d) start) c with
    ⟨hopen, -⟩ | ⟨-, -, hstep⟩ | ⟨-, hquote, -⟩ | ⟨-, hstep⟩
  · simp [hd c (mem_quotes_of_quote_foldl hopen)] at hc
  · rw [hstep]
    apply flush_congr
    rw [List.reverse_cons]
    exact trim_append_of_blank (by simpa [Blank] using hc) _
  · simp [hd c hquote] at hc
  · rw [hstep, flush_flush]

/-- **Blanks at the ends of a text do not matter for its items.** -/
theorem items_trim (t : Text) : items d (trim t) = items d t := by
  obtain ⟨a, b, ha, hb, hframe⟩ := exists_frame t
  have hfront : ((a ++ trim t).foldl (step d) start).flush =
      ((trim t).foldl (step d) start).flush := by
    rw [List.foldl_append]
    exact flush_of_padded (padded_foldl d (padded_foldl_of_blank hd ha) (trim t))
  have hback : ((a ++ trim t ++ b).foldl (step d) start).flush =
      ((a ++ trim t).foldl (step d) start).flush := by
    clear hframe
    induction b using List.reverseRecOn with
    | nil => rw [List.append_nil]
    | append_singleton b c ih =>
      rw [← List.append_assoc, List.foldl_append, List.foldl_cons, List.foldl_nil,
        flush_step_of_blank hd (hb c (by simp)), ih fun e he => hb e (by simp [he])]
  rw [items, items, ← hfront, ← hback, ← hframe]

end Blanks

/-! ## Spellings -/

/-- How an item is kept together. -/
inductive Quoting where
  | double
  | single
  | bare
deriving Repr, DecidableEq

namespace Quoting

def write : Quoting → Text → Text
  | double, x => '"' :: x ++ ['"']
  | single, x => '\x27' :: x ++ ['\x27']
  | bare, x => x

/-- An item without double quotes has no other character that would end it. -/
def Fits : Quoting → Text → Prop
  | double, _ => True
  | single, x => '\x27' ∉ x
  | bare, x => '\x27' ∉ x ∧ ',' ∉ x ∧ ' ' ∉ x

instance : (quoting : Quoting) → (x : Text) → Decidable (quoting.Fits x)
  | double, _ => inferInstanceAs (Decidable True)
  | single, x => inferInstanceAs (Decidable ('\x27' ∉ x))
  | bare, x => inferInstanceAs (Decidable ('\x27' ∉ x ∧ ',' ∉ x ∧ ' ' ∉ x))

end Quoting

/-- Commas and spaces only. -/
def Gap (t : Text) : Prop := ∀ c ∈ t, c = ',' ∨ c = ' '

instance (t : Text) : Decidable (Gap t) := List.decidableBAll (fun c => c = ',' ∨ c = ' ') t

/-- An item as it is spelled, with the gap in front of it. -/
structure Entry where
  gap : Text
  quoting : Quoting
  item : Text
deriving Repr, DecidableEq

namespace Entry

def text (e : Entry) : Text := e.gap ++ e.quoting.write e.item

structure Valid (e : Entry) : Prop where
  gap : Gap e.gap
  quotable : Quotable e.item
  fits : e.quoting.Fits e.item

instance (e : Entry) : Decidable e.Valid :=
  decidable_of_iff (Gap e.gap ∧ Quotable e.item ∧ e.quoting.Fits e.item)
    ⟨fun h => ⟨h.1, h.2.1, h.2.2⟩, fun h => ⟨h.gap, h.quotable, h.fits⟩⟩

end Entry

/-- A spelling of an array: its items, and the gap behind the last one. -/
structure Spelling where
  entries : List Entry
  ending : Text
deriving Repr, DecidableEq

namespace Spelling

def items (s : Spelling) : List Text := s.entries.map Entry.item

def text (s : Spelling) : Text := '[' :: (s.entries.flatMap Entry.text ++ s.ending) ++ [']']

/-- The gap in front of the first item may be empty, those between two items may not. -/
structure Valid (s : Spelling) : Prop where
  entries : ∀ e ∈ s.entries, e.Valid
  parted : ∀ e ∈ s.entries.tail, e.gap ≠ []
  ending : Gap s.ending

instance (s : Spelling) : Decidable s.Valid :=
  decidable_of_iff
    ((∀ e ∈ s.entries, e.Valid) ∧ (∀ e ∈ s.entries.tail, e.gap ≠ []) ∧ Gap s.ending)
    ⟨fun h => ⟨h.1, h.2.1, h.2.2⟩, fun h => ⟨h.entries, h.parted, h.ending⟩⟩

end Spelling

/-! ## Reading a spelling -/

/-- **Every quoting leaves the item behind.** -/
theorem leaves_write {quoting : Quoting} {x : Text} (hx : '"' ∉ x) (h : quoting.Fits x) :
    Leaves .liberal (quoting.write x) x := by
  cases quoting with
  | double => exact leaves_between (by simp [Dialect.liberal]) hx
  | single => exact leaves_between (by simp [Dialect.liberal]) h
  | bare =>
    obtain ⟨hsingle, hcomma, hspace⟩ := h
    apply leaves_bare
    intro c hc
    simp only [Dialect.liberal, List.mem_cons, List.not_mem_nil, or_false, not_or]
    exact ⟨⟨fun e => hx (e ▸ hc), fun e => hsingle (e ▸ hc)⟩,
      fun e => hcomma (e ▸ hc), fun e => hspace (e ▸ hc)⟩

/-- **A run of separators ends an item**, and no more than one. -/
theorem foldl_gap {gap : Text} (hgap : Gap gap) (hne : gap ≠ []) {s : ItemScan}
    (hs : s.quote = none) : gap.foldl (step .liberal) s = s.flush := by
  have hstep : ∀ c ∈ gap, ∀ s : ItemScan, s.quote = none → step .liberal s c = s.flush := by
    intro c hc s hs
    rcases hgap c hc with rfl | rfl <;> simp [step, hs, Dialect.liberal]
  clear hgap
  induction gap generalizing s with
  | nil => exact absurd rfl hne
  | cons c gap ih =>
    rw [List.foldl_cons, hstep c List.mem_cons_self s hs]
    by_cases hnil : gap = []
    · rw [hnil, List.foldl_nil]
    · rw [ih hnil (by rw [quote_flush, hs]) fun e he => hstep e (List.mem_cons_of_mem c he),
        flush_flush]

/-- The entries leave their items behind. -/
theorem flush_foldl_entries {entries : List Entry} (h : ∀ e ∈ entries, e.Valid)
    (hparted : ∀ e ∈ entries.tail, e.gap ≠ []) :
    ((entries.flatMap Entry.text).foldl (step .liberal) start).flush =
      ⟨(entries.map Entry.item).reverse, [], none⟩ := by
  induction entries using List.reverseRecOn with
  | nil => rfl
  | append_singleton entries e ih =>
    have he := h e (by simp)
    have hbefore : ∀ x ∈ entries.tail, x.gap ≠ [] := by
      intro x hx
      have hne : entries ≠ [] := List.ne_nil_of_mem (List.mem_of_mem_tail hx)
      apply hparted
      rw [List.tail_append_of_ne_nil hne]
      exact List.mem_append_left _ hx
    have ih := ih (fun x hx => h x (by simp [hx])) hbefore
    rw [List.flatMap_append, List.flatMap_singleton, Entry.text, List.foldl_append,
      List.foldl_append]
    -- the gap ends the item before it, and without a gap there is none
    have hgap : e.gap.foldl (step .liberal)
        ((entries.flatMap Entry.text).foldl (step .liberal) start) =
          ⟨(entries.map Entry.item).reverse, [], none⟩ := by
      by_cases hnil : e.gap = []
      · obtain rfl : entries = [] := by
          by_contra hne
          exact hparted e (by rw [List.tail_append_of_ne_nil hne]; simp) hnil
        rw [hnil]
        rfl
      · rw [foldl_gap he.gap hnil (by rw [← quote_flush, ih]), ih]
    rw [hgap, leaves_write he.quotable.unquoted he.fits, flush_of_trimmed he.quotable.trimmed,
      if_neg he.quotable.ne_nil]
    simp

theorem Spelling.isBracketed_text (s : Spelling) : isBracketed s.text = true :=
  isBracketed_brackets _

/-- **The items are read from each of their spellings.** -/
theorem Spelling.itemsOf_text {s : Spelling} (h : s.Valid) : itemsOf s.text = s.items := by
  have hend : (s.ending.foldl (step .liberal)
      ((s.entries.flatMap Entry.text).foldl (step .liberal) start)).flush =
        ((s.entries.flatMap Entry.text).foldl (step .liberal) start).flush := by
    by_cases hnil : s.ending = []
    · rw [hnil, List.foldl_nil]
    · rw [foldl_gap h.ending hnil
        (by rw [← quote_flush, flush_foldl_entries h.entries h.parted]), flush_flush]
  have hquotes : ∀ q ∈ Dialect.liberal.quotes, isBlank q = false := by
    simp only [Dialect.liberal, List.mem_cons, List.not_mem_nil, or_false]
    rintro q (rfl | rfl) <;> decide
  rw [itemsOf, content, Spelling.text, inner_brackets, items_trim hquotes, ArrayLiteral.items,
    List.foldl_append, hend, flush_foldl_entries h.entries h.parted, List.reverse_reverse]
  rfl

/-- **All spellings of the items mean the same**: the items are read from each, and the canonical
form of each is that of the items. -/
theorem parse_spelling {s : Spelling} (h : s.Valid) :
    parse s.text = .ok s.items ∧ normalize s.text = '[' :: writeItems s.items ++ [']'] ∧
      ∀ s' : Spelling, s'.Valid → s'.items = s.items → normalize s'.text = normalize s.text := by
  have hcanonical : ∀ s' : Spelling, s'.Valid →
      normalize s'.text = '[' :: writeItems s'.items ++ [']'] := by
    intro s' h'
    rw [normalize_of_bracketed s'.isBracketed_text, Spelling.itemsOf_text h']
  have hquotable : ∀ x ∈ s.items, Quotable x := by
    intro x hx
    obtain ⟨e, he, rfl⟩ := List.mem_map.mp hx
    exact (h.entries e he).quotable
  refine ⟨?_, hcanonical s h, ?_⟩
  · rw [parse_of_bracketed s.isBracketed_text, Spelling.itemsOf_text h, items_writeItems hquotable]
  · intro s' h' hitems
    rw [hcanonical s' h', hcanonical s h, hitems]

/-- Either kind of quotes and none, with a comma, spaces and an apostrophe in the items. -/
theorem parse_spelling_mixed :
    let s : Spelling := ⟨[⟨", ".toList, .double, "it\x27s".toList⟩,
      ⟨" ,, ".toList, .single, "a, b".toList⟩, ⟨[','], .bare, "c".toList⟩], [' ']⟩
    let s' : Spelling := ⟨[⟨[], .double, "it\x27s".toList⟩, ⟨[','], .double, "a, b".toList⟩,
      ⟨[' '], .single, "c".toList⟩], []⟩
    s.text = "[, \"it\x27s\" ,, \x27a, b\x27,c ]".toList ∧
      s'.text = "[\"it\x27s\",\"a, b\" \x27c\x27]".toList ∧
      s.Valid ∧ s'.Valid ∧ s'.items = s.items ∧
      parse s.text = .ok ["it\x27s".toList, "a, b".toList, "c".toList] ∧
      normalize s'.text = normalize s.text := by
  intro s s'
  have hs : s.Valid := by decide
  have hs' : s'.Valid := by decide
  obtain ⟨hparse, -, hsame⟩ := parse_spelling hs
  exact ⟨by decide, by decide, hs, hs', by decide, hparse, hsame s' hs' (by decide)⟩

end ArrayLiteral

end Widgetry
