import Mathlib.Algebra.GroupWithZero.Nat
import Mathlib.Data.Char
import Mathlib.Data.List.Induction
import Mathlib.Data.List.Lex
import Widgetry.Service.Telemetry

/-!
# Tallies of names

A tally that is made by counting names one by one (`Tally.ofNames`) holds for each name how often it
was counted. So a law about counters is a law about the list of the names that were counted
(`Tally.count_ofNames`, `Tally.total_ofNames`, `Tally.mem_names_ofNames`), and the order of that list
does not matter (`Tally.bumpAll_perm`).

That a name has one entry only comes from the order of the entries: counting a name stops in front
of the first greater one.
-/

namespace Widgetry

namespace Tally

/-! ## One more count -/

theorem bump_cons_self (name : Text) (n : Nat) (rest : Tally) :
    bump name ((name, n) :: rest) = (name, n + 1) :: rest := by
  rw [bump, if_pos rfl]

theorem bump_cons_of_lt {name first : Text} (h : name < first) (n : Nat) (rest : Tally) :
    bump name ((first, n) :: rest) = (name, 1) :: (first, n) :: rest := by
  rw [bump, if_neg (ne_of_lt h), if_pos h]

theorem bump_cons_of_gt {name first : Text} (h : first < name) (n : Nat) (rest : Tally) :
    bump name ((first, n) :: rest) = (first, n) :: bump name rest := by
  rw [bump, if_neg (ne_of_gt h), if_neg (lt_asymm h)]

theorem bump_comm_of_lt {name other : Text} (hlt : name < other) (tally : Tally) :
    (tally.bump other).bump name = (tally.bump name).bump other := by
  induction tally with
  | nil => rw [bump, bump, bump_cons_of_lt hlt, bump_cons_of_gt hlt, bump]
  | cons entry rest ih =>
    obtain ⟨first, n⟩ := entry
    rcases lt_trichotomy other first with hfirst | rfl | hfirst
    · rw [bump_cons_of_lt hfirst, bump_cons_of_lt hlt, bump_cons_of_lt (lt_trans hlt hfirst),
        bump_cons_of_gt hlt, bump_cons_of_lt hfirst]
    · rw [bump_cons_self, bump_cons_of_lt hlt, bump_cons_of_lt hlt, bump_cons_of_gt hlt,
        bump_cons_self]
    · rw [bump_cons_of_gt hfirst]
      rcases lt_trichotomy name first with hname | rfl | hname
      · rw [bump_cons_of_lt hname, bump_cons_of_lt hname, bump_cons_of_gt hlt,
          bump_cons_of_gt hfirst]
      · rw [bump_cons_self, bump_cons_self, bump_cons_of_gt hfirst]
      · rw [bump_cons_of_gt hname, bump_cons_of_gt hname, bump_cons_of_gt hfirst, ih]

/-- **Counts commute**, in any tally. -/
theorem bump_comm (name other : Text) (tally : Tally) :
    (tally.bump other).bump name = (tally.bump name).bump other := by
  rcases lt_trichotomy name other with hlt | rfl | hgt
  · exact bump_comm_of_lt hlt tally
  · rfl
  · exact (bump_comm_of_lt hgt tally).symm

/-! ## Order -/

/-- The names of the tally ascend. -/
def Sorted (tally : Tally) : Prop := tally.names.Pairwise (· < ·)

theorem Sorted.nodup {tally : Tally} (h : tally.Sorted) : tally.names.Nodup := h.imp ne_of_lt

theorem mem_names_bump {tally : Tally} {name other : Text} :
    other ∈ (tally.bump name).names ↔ other = name ∨ other ∈ tally.names := by
  induction tally with
  | nil => simp [bump, names]
  | cons entry rest ih =>
    obtain ⟨first, n⟩ := entry
    unfold names at ih ⊢
    rcases lt_trichotomy name first with hlt | rfl | hgt
    · rw [bump_cons_of_lt hlt, List.map_cons, List.mem_cons]
    · rw [bump_cons_self, List.map_cons, List.map_cons, List.mem_cons, or_self_left]
    · rw [bump_cons_of_gt hgt, List.map_cons, List.map_cons, List.mem_cons, List.mem_cons, ih,
        or_left_comm]

theorem sorted_bump {tally : Tally} (h : tally.Sorted) (name : Text) :
    (tally.bump name).Sorted := by
  induction tally with
  | nil => exact List.pairwise_singleton _ _
  | cons entry rest ih =>
    obtain ⟨first, n⟩ := entry
    obtain ⟨hfirst, hrest⟩ : (∀ other ∈ names rest, first < other) ∧ Sorted rest :=
      List.pairwise_cons.mp h
    rcases lt_trichotomy name first with hlt | rfl | hgt
    · rw [bump_cons_of_lt hlt]
      refine List.pairwise_cons.mpr ⟨?_, h⟩
      intro other hother
      rcases List.mem_cons.mp hother with rfl | hmem
      · exact hlt
      · exact lt_trans hlt (hfirst other hmem)
    · rw [bump_cons_self]
      exact h
    · rw [bump_cons_of_gt hgt]
      refine List.pairwise_cons.mpr ⟨?_, ih hrest⟩
      intro other hother
      rcases mem_names_bump.mp hother with rfl | hmem
      · exact hgt
      · exact hfirst other hmem

/-! ## Counts -/

theorem count_cons (first : Text) (n : Nat) (rest : Tally) (name : Text) :
    count ((first, n) :: rest) name = if name = first then n else count rest name := by
  unfold count
  rw [List.lookup_cons]
  split_ifs with heq
  · rw [beq_iff_eq.mpr heq]
    rfl
  · rw [beq_eq_false_iff_ne.mpr heq]

theorem count_eq_zero {tally : Tally} {name : Text} (h : name ∉ tally.names) :
    tally.count name = 0 := by
  induction tally with
  | nil => rfl
  | cons entry rest ih =>
    have hne : name ≠ entry.1 := fun heq => h (List.mem_cons.mpr (Or.inl heq))
    rw [count_cons, if_neg hne]
    exact ih fun hmem => h (List.mem_cons.mpr (Or.inr hmem))

theorem count_bump_of_ne {name other : Text} (hne : other ≠ name) (tally : Tally) :
    (tally.bump name).count other = tally.count other := by
  induction tally with
  | nil => rw [bump, count_cons, if_neg hne]
  | cons entry rest ih =>
    obtain ⟨first, n⟩ := entry
    rcases lt_trichotomy name first with hlt | rfl | hgt
    · rw [bump_cons_of_lt hlt, count_cons, if_neg hne]
    · rw [bump_cons_self, count_cons, count_cons, if_neg hne, if_neg hne]
    · rw [bump_cons_of_gt hgt, count_cons, count_cons, ih]

/-- Counting a name adds one to its count. In a tally that is not sorted it could put a new entry in
front of an older one. -/
theorem count_bump_self {tally : Tally} (h : tally.Sorted) (name : Text) :
    (tally.bump name).count name = tally.count name + 1 := by
  induction tally with
  | nil => rw [bump, count_cons, if_pos rfl, count_eq_zero List.not_mem_nil]
  | cons entry rest ih =>
    obtain ⟨first, n⟩ := entry
    obtain ⟨hfirst, hrest⟩ : (∀ other ∈ names rest, first < other) ∧ Sorted rest :=
      List.pairwise_cons.mp h
    rcases lt_trichotomy name first with hlt | rfl | hgt
    · have hnew : name ∉ names ((first, n) :: rest) := by
        intro hmem
        rcases List.mem_cons.mp hmem with heq | hmem
        · exact ne_of_lt hlt heq
        · exact lt_asymm hlt (hfirst name hmem)
      rw [bump_cons_of_lt hlt, count_cons, if_pos rfl, count_eq_zero hnew]
    · rw [bump_cons_self, count_cons, count_cons, if_pos rfl, if_pos rfl]
    · rw [bump_cons_of_gt hgt, count_cons, count_cons, if_neg (ne_of_gt hgt),
        if_neg (ne_of_gt hgt), ih hrest]

/-- A name with a count has an entry, which holds the count. -/
theorem lookup_of_count_pos {tally : Tally} {name : Text} (h : 1 ≤ tally.count name) :
    tally.lookup name = some (tally.count name) := by
  unfold count at h ⊢
  cases hentry : tally.lookup name with
  | none =>
    rw [hentry] at h
    exact absurd h (by decide)
  | some n => rfl

/-! ## Positive counts -/

/-- No entry of the tally is left at zero. -/
def Positive (tally : Tally) : Prop := ∀ entry ∈ tally, 1 ≤ entry.2

theorem positive_bump {tally : Tally} (h : tally.Positive) (name : Text) :
    (tally.bump name).Positive := by
  induction tally with
  | nil => exact List.forall_mem_singleton.mpr (Nat.le_refl 1)
  | cons entry rest ih =>
    obtain ⟨first, n⟩ := entry
    obtain ⟨hfirst, hrest⟩ : 1 ≤ n ∧ Positive rest := List.forall_mem_cons.mp h
    rcases lt_trichotomy name first with hlt | rfl | hgt
    · rw [bump_cons_of_lt hlt]
      exact List.forall_mem_cons.mpr ⟨Nat.le_refl 1, h⟩
    · rw [bump_cons_self]
      exact List.forall_mem_cons.mpr ⟨Nat.le_succ_of_le hfirst, hrest⟩
    · rw [bump_cons_of_gt hgt]
      exact List.forall_mem_cons.mpr ⟨hfirst, ih hrest⟩

/-! ## Totals -/

/-- The sum of the counts under all names that satisfy `p`. -/
def total (p : Text → Bool) (tally : Tally) : Nat :=
  ((tally.filter fun entry => p entry.1).map Prod.snd).sum

theorem total_cons (p : Text → Bool) (name : Text) (n : Nat) (rest : Tally) :
    total p ((name, n) :: rest) = (if p name then n else 0) + total p rest := by
  unfold total
  cases h : p name <;> simp [h]

theorem total_bump (p : Text → Bool) (name : Text) (tally : Tally) :
    total p (tally.bump name) = total p tally + if p name then 1 else 0 := by
  induction tally with
  | nil => rw [bump, total_cons, Nat.add_comm]
  | cons entry rest ih =>
    obtain ⟨first, n⟩ := entry
    rcases lt_trichotomy name first with hlt | rfl | hgt
    · rw [bump_cons_of_lt hlt, total_cons, Nat.add_comm]
    · rw [bump_cons_self, total_cons, total_cons]
      split_ifs <;> omega
    · rw [bump_cons_of_gt hgt, total_cons, total_cons, ih, Nat.add_assoc]

/-! ## Counting many names -/

/-- The tally with one more count under each of the names. -/
def bumpAll (counted : List Text) (tally : Tally) : Tally :=
  counted.foldl (fun tally name => tally.bump name) tally

/-- The tally of a list of names. -/
def ofNames (counted : List Text) : Tally := bumpAll counted []

theorem bumpAll_append (counted others : List Text) (tally : Tally) :
    bumpAll (counted ++ others) tally = bumpAll others (bumpAll counted tally) :=
  List.foldl_append

theorem mem_names_bumpAll {counted : List Text} {tally : Tally} {name : Text} :
    name ∈ (bumpAll counted tally).names ↔ name ∈ counted ∨ name ∈ tally.names := by
  induction counted using List.reverseRecOn with
  | nil => exact (or_iff_right List.not_mem_nil).symm
  | append_singleton counted last ih =>
    rw [bumpAll_append]
    show name ∈ ((bumpAll counted tally).bump last).names ↔ _
    rw [mem_names_bump, ih, List.mem_append, List.mem_singleton, or_left_comm, or_assoc]

/-- **The order in which names are counted does not matter.** -/
theorem bumpAll_perm {counted counted' : List Text} (h : counted.Perm counted') (tally : Tally) :
    bumpAll counted tally = bumpAll counted' tally :=
  h.foldl_eq' (fun name _ other _ tally => bump_comm other name tally) tally

theorem ofNames_append_singleton (counted : List Text) (name : Text) :
    ofNames (counted ++ [name]) = (ofNames counted).bump name :=
  bumpAll_append counted [name] []

theorem sorted_ofNames (counted : List Text) : (ofNames counted).Sorted := by
  induction counted using List.reverseRecOn with
  | nil => exact List.Pairwise.nil
  | append_singleton counted name ih =>
    rw [ofNames_append_singleton]
    exact sorted_bump ih name

theorem positive_ofNames (counted : List Text) : (ofNames counted).Positive := by
  induction counted using List.reverseRecOn with
  | nil => exact List.forall_mem_nil _
  | append_singleton counted name ih =>
    rw [ofNames_append_singleton]
    exact positive_bump ih name

/-- **The count under a name is how often it was counted.** -/
theorem count_ofNames (counted : List Text) (name : Text) :
    (ofNames counted).count name = counted.count name := by
  induction counted using List.reverseRecOn with
  | nil => rfl
  | append_singleton counted last ih =>
    rw [ofNames_append_singleton, List.count_append, ← ih]
    by_cases heq : name = last
    · rw [heq, count_bump_self (sorted_ofNames counted), List.count_singleton_self]
    · rw [count_bump_of_ne heq, List.count_eq_zero_of_not_mem (by simpa using heq), Nat.add_zero]

@[simp] theorem total_ofNames (p : Text → Bool) (counted : List Text) :
    (ofNames counted).total p = counted.countP p := by
  induction counted using List.reverseRecOn with
  | nil => rfl
  | append_singleton counted name ih =>
    rw [ofNames_append_singleton, total_bump, ih, List.countP_append, List.countP_singleton]

/-- A tally has the names that were counted, and no others. -/
@[simp] theorem mem_names_ofNames {counted : List Text} {name : Text} :
    name ∈ (ofNames counted).names ↔ name ∈ counted := by
  rw [ofNames, mem_names_bumpAll]
  exact or_iff_left List.not_mem_nil

end Tally

end Widgetry
