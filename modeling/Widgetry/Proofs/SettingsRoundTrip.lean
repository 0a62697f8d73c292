import Mathlib.Data.List.Forall2
import Widgetry.Proofs.Loading

/-!
# Settings files that are written and read back

An assignment is written on a line of its own, its value in quotes of either kind (`Writes`). The
quotes keep what trimming would take from the value, and only the outermost two of them are dropped,
so the value may begin and end with blanks and with quotes, and nothing in it is read as the end of
the key or as a comment. The line is read back as the assignment (`assigns_of_writes`).

The lines of the file are those written (`assignments_of_writes`). So a file that has been written
sets each variable to its first value, and nothing else (`firstValues_load`).
-/

namespace Widgetry.Settings

open Text

/-! ## One line -/

/-- An assignment that is found again on the line on which it is written. -/
structure Writable (a : Text × Text) : Prop where
  named : a.1 ≠ []
  trimmed : Trimmed a.1
  noComment : a.1.head? ≠ some '#'
  noEquals : '=' ∉ a.1
  oneLine : ∀ c ∈ a.1 ++ a.2, isLineEnd c = false
  noNul : ¬ HasNul a

instance (t : Text) : Decidable (∀ c ∈ t, isLineEnd c = false) :=
  List.decidableBAll (isLineEnd · = false) t

instance (a : Text × Text) : Decidable (Writable a) :=
  decidable_of_iff (a.1 ≠ [] ∧ Trimmed a.1 ∧ a.1.head? ≠ some '#' ∧ '=' ∉ a.1 ∧
      (∀ c ∈ a.1 ++ a.2, isLineEnd c = false) ∧ ¬ HasNul a)
    ⟨fun ⟨named, trimmed, noComment, noEquals, oneLine, noNul⟩ =>
        ⟨named, trimmed, noComment, noEquals, oneLine, noNul⟩,
      fun h => ⟨h.named, h.trimmed, h.noComment, h.noEquals, h.oneLine, h.noNul⟩⟩

/-- The assignment is written on the line, its value in quotes of either kind. -/
def Writes (line : Text) (a : Text × Text) : Prop :=
  ∃ q, IsQuote q ∧ line = writeAssignment q a.1 a.2

theorem isBlank_of_isQuote {q : Char} (h : IsQuote q) : isBlank q = false := by
  rcases h with rfl | rfl
  · decide
  · decide

theorem isLineEnd_of_isQuote {q : Char} (h : IsQuote q) : isLineEnd q = false := by
  rcases h with rfl | rfl
  · decide
  · decide

section

variable {line : Text} {a : Text × Text}

theorem assigns_of_writes (h : Writes line a) (ha : Writable a) : Assigns line a.1 a.2 := by
  obtain ⟨q, hq, rfl⟩ := h
  have hblank := isBlank_of_isQuote hq
  have hvalue : Trimmed (q :: a.2 ++ [q]) := trimmed_of_ends hblank hblank a.2
  have hline : writeAssignment q a.1 a.2 = a.1 ++ '=' :: (q :: a.2 ++ [q]) := by
    simp [writeAssignment]
  have htrim : trim (writeAssignment q a.1 a.2) = a.1 ++ '=' :: (q :: a.2 ++ [q]) := by
    have hequals : isBlank '=' = false := by decide
    rw [hline, trim_eq_self (trimmed_append_ink ha.trimmed hequals hvalue)]
  refine ⟨?_, ⟨a.1, q :: a.2 ++ [q], htrim, ha.noEquals, trim_eq_self ha.trimmed, ?_⟩, ha.named⟩
  · rw [htrim, List.head?_append_of_ne_nil _ ha.named]
    exact ha.noComment
  · rw [trim_eq_self hvalue]
    exact .quoted hq a.2

theorem isLineEnd_of_writes (h : Writes line a) (ha : Writable a) :
    ∀ c ∈ line, isLineEnd c = false := by
  obtain ⟨q, hq, rfl⟩ := h
  intro c hc
  have hparts : c ∈ a.1 ++ a.2 ∨ c = '=' ∨ c = q := by
    simp only [writeAssignment, List.mem_append, List.mem_cons, List.not_mem_nil] at hc ⊢
    tauto
  rcases hparts with hc | rfl | rfl
  · exact ha.oneLine c hc
  · decide
  · exact isLineEnd_of_isQuote hq

end

/-! ## All lines -/

section

variable {env : Environment} {lines : List Text} {pairs : List (Text × Text)}

theorem filterMap_of_writes (h : List.Forall₂ Writes lines pairs)
    (hpairs : ∀ a ∈ pairs, Writable a) : lines.filterMap assignment? = pairs := by
  induction h with
  | nil => rfl
  | @cons line a lines pairs hline _ ih =>
    have hassigns := assigns_of_writes hline (hpairs a List.mem_cons_self)
    rw [List.filterMap_cons_some (assignment?_eq_some_iff.mpr hassigns),
      ih fun b hb => hpairs b (List.mem_cons_of_mem a hb)]

/-- **What has been written is read back.** -/
theorem assignments_of_writes (h : List.Forall₂ Writes lines pairs)
    (hpairs : ∀ a ∈ pairs, Writable a) : assignments (['\n'].intercalate lines) = pairs := by
  have hread := filterMap_of_writes h hpairs
  have honeLine : ∀ line ∈ lines, ∀ c ∈ line, isLineEnd c = false := by
    intro line hline
    obtain ⟨a, ha, hwrites⟩ := Outcome.exists_of_mem_forall₂ h hline
    exact isLineEnd_of_writes hwrites (hpairs a ha)
  cases lines with
  | nil =>
    rw [← hread]
    rfl
  | cons first others =>
    rw [assignments, pieces, cut_intercalate (by decide) honeLine]
    exact hread

theorem load_of_writes (h : List.Forall₂ Writes lines pairs) (hpairs : ∀ a ∈ pairs, Writable a) :
    load env (toUtf8 (['\n'].intercalate lines)) = assign env pairs := by
  rw [load_toUtf8, assignments_of_writes h hpairs]

/-- **A file that has been written loads** as the assignments in it. -/
theorem load_write {q : Char} (hq : IsQuote q) (hpairs : ∀ a ∈ pairs, Writable a) :
    load env (write q pairs) = assign env pairs := by
  refine load_of_writes ?_ hpairs
  rw [List.forall₂_map_left_iff, List.forall₂_same]
  exact fun a _ => ⟨q, hq, rfl⟩

/-! ## The environment -/

/-- Without a NUL nothing ends the loading. -/
theorem applies_of_noNul (env : Environment) (h : ∀ a ∈ pairs, ¬ HasNul a) :
    (assign env pairs).2 = none ∧ Applies env pairs [] (assign env pairs).1 none := by
  obtain ⟨before, after, hparts, happlies⟩ := applies_assign env pairs
  rcases happlies.ended with ⟨rfl, herror⟩ | ⟨a, rest, rfl, ⟨-, hnul⟩, -⟩
  · rw [List.append_nil] at hparts
    rw [hparts, herror] at happlies
    exact ⟨herror, happlies⟩
  · exact absurd hnul (h a (by simp [← hparts]))

/-- What loading leaves behind that comes to its end: each variable assigned has the value of its
first assignment, and every other one is as before. -/
structure FirstValues (env : Environment) (pairs : List (Text × Text)) (env' : Environment)
    (error : Option LoadError) : Prop where
  ended : error = none
  first : ∀ earlier key value later, pairs = earlier ++ (key, value) :: later →
    key ∉ earlier.map Prod.fst → env'.lookup key = some value
  others : ∀ key, key ∉ pairs.map Prod.fst → env'.lookup key = env.lookup key

theorem firstValues_assign (hpairs : ∀ a ∈ pairs, ¬ HasNul a)
    (habsent : ∀ a ∈ pairs, env.lookup a.1 = none) :
    FirstValues env pairs (assign env pairs).1 (assign env pairs).2 := by
  obtain ⟨herror, happlies⟩ := applies_of_noNul env hpairs
  refine ⟨herror, ?_, ?_⟩
  · rintro earlier key value later rfl hfirst
    have hkey : env.lookup key = none := habsent (key, value) (by simp)
    rw [happlies.values, valueAfter, hkey, List.lookup_append, lookup_eq_none_iff.mpr hfirst]
    simp
  · intro key hkey
    rw [happlies.values, valueAfter, lookup_eq_none_iff.mpr hkey, Option.or_none]

/-- **Settings are read back as they have been written**, whichever quotes each of them is in. -/
theorem firstValues_load (h : List.Forall₂ Writes lines pairs) (hpairs : ∀ a ∈ pairs, Writable a)
    (habsent : ∀ a ∈ pairs, env.lookup a.1 = none) :
    FirstValues env pairs (load env (toUtf8 (['\n'].intercalate lines))).1
      (load env (toUtf8 (['\n'].intercalate lines))).2 := by
  rw [load_of_writes h hpairs]
  exact firstValues_assign (fun a ha => (hpairs a ha).noNul) habsent

/-- A value that is a quote, one with blanks, `=`, `#` and a quote at its end, an empty one, and a
second assignment that does not count. -/
theorem firstValues_quotes :
    let env : Environment := [("HOME".toList, "/".toList)]
    let pairs := [("Q".toList, "\"".toList), ("my list".toList, "  a=#\x27".toList),
      ("E".toList, []), ("Q".toList, "x".toList)]
    let lines := ["Q=\"\"\"".toList, "my list=\x27  a=#\x27\x27".toList, "E=\"\"".toList,
      "Q=\x27x\x27".toList]
    List.Forall₂ Writes lines pairs ∧ (∀ a ∈ pairs, Writable a) ∧
      (∀ a ∈ pairs, env.lookup a.1 = none) ∧
      FirstValues env pairs (load env (toUtf8 (['\n'].intercalate lines))).1
        (load env (toUtf8 (['\n'].intercalate lines))).2 := by
  intro env pairs lines
  have hlines : List.Forall₂ Writes lines pairs :=
    .cons ⟨'"', Or.inl rfl, rfl⟩ (.cons ⟨'\x27', Or.inr rfl, rfl⟩ (.cons ⟨'"', Or.inl rfl, rfl⟩
      (.cons ⟨'\x27', Or.inr rfl, rfl⟩ .nil)))
  have hpairs : ∀ a ∈ pairs, Writable a := by decide
  have habsent : ∀ a ∈ pairs, env.lookup a.1 = none := by decide
  exact ⟨hlines, hpairs, habsent, firstValues_load hlines hpairs habsent⟩

end

end Widgetry.Settings
