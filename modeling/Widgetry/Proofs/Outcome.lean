import Mathlib.Data.List.Forall2

/-!
# Outcomes that are values or errors

When a composed outcome is a value, and when it is an error. The grammars and the previews are
composed of these few combinators, so what they accept and what they refuse is found by rewriting
with the equivalences below, and no proof unfolds a combinator.
-/

namespace Widgetry.Outcome

variable {ε ε' α β : Type}

/-! ## Mapping -/

theorem map_eq_ok_iff {f : α → β} {x : Except ε α} {b : β} :
    x.map f = .ok b ↔ ∃ a, x = .ok a ∧ f a = b := by
  cases x <;> simp [Except.map]

theorem map_eq_error_iff {f : α → β} {x : Except ε α} {e : ε} :
    x.map f = .error e ↔ x = .error e := by
  cases x <;> simp [Except.map]

/-- Outcomes that agree on their first parts are values together. -/
theorem exists_of_map_fst_eq {β' : Type} {x : Except ε (α × β)} {y : Except ε (α × β')} {a : α}
    {b : β} (h : x.map Prod.fst = y.map Prod.fst) (hx : x = .ok (a, b)) :
    ∃ b', y = .ok (a, b') := by
  rw [hx] at h
  obtain ⟨⟨a', b'⟩, hy, rfl⟩ := map_eq_ok_iff.mp h.symm
  exact ⟨b', hy⟩

theorem mapError_eq_ok_iff {f : ε → ε'} {x : Except ε α} {a : α} :
    x.mapError f = .ok a ↔ x = .ok a := by
  cases x with
  | ok b =>
    constructor
    · intro h
      cases h
      rfl
    · intro h
      cases h
      rfl
  | error e =>
    constructor
    · intro h
      cases h
    · intro h
      cases h

theorem mapError_eq_error_iff {f : ε → ε'} {x : Except ε α} {e : ε'} :
    x.mapError f = .error e ↔ ∃ e', x = .error e' ∧ f e' = e := by
  cases x <;> simp [Except.mapError]

/-! ## Sequencing -/

theorem bind_eq_ok_iff {x : Except ε α} {f : α → Except ε β} {b : β} :
    x >>= f = .ok b ↔ ∃ a, x = .ok a ∧ f a = .ok b := by
  cases x <;> simp [bind, Except.bind]

theorem bind_eq_error_iff {x : Except ε α} {f : α → Except ε β} {e : ε} :
    x >>= f = .error e ↔ x = .error e ∨ ∃ a, x = .ok a ∧ f a = .error e := by
  cases x <;> simp [bind, Except.bind]

theorem pure_eq_ok_iff {a b : α} : (pure a : Except ε α) = .ok b ↔ a = b := by
  simp [pure, Except.pure]

theorem pure_ne_error {a : α} {e : ε} : (pure a : Except ε α) ≠ .error e := by
  simp [pure, Except.pure]

theorem throw_ne_ok {e : ε} {a : α} : (throw e : Except ε α) ≠ .ok a := by
  simp [throw, throwThe, MonadExceptOf.throw]

/-! ## Lists -/

/-- A list is read only if every member is. -/
theorem exists_of_mapM_eq_ok {f : α → Except ε β} {xs : List α} {ys : List β}
    (h : xs.mapM f = .ok ys) : ∀ x ∈ xs, ∃ y, f x = .ok y := by
  induction xs generalizing ys with
  | nil => simp
  | cons x xs ih =>
    rw [List.mapM_cons] at h
    obtain ⟨y, hy, h⟩ := bind_eq_ok_iff.mp h
    obtain ⟨ys', hys, -⟩ := bind_eq_ok_iff.mp h
    intro z hz
    rcases List.mem_cons.mp hz with rfl | hz
    · exact ⟨y, hy⟩
    · exact ih hys z hz

/-- **The members of a list that has been read are its members, read one by one.** -/
theorem forall₂_of_mapM_eq_ok {f : α → Except ε β} {xs : List α} {ys : List β}
    (h : xs.mapM f = .ok ys) : List.Forall₂ (fun x y => f x = .ok y) xs ys := by
  induction xs generalizing ys with
  | nil =>
    rw [List.mapM_nil] at h
    rw [← pure_eq_ok_iff.mp h]
    exact .nil
  | cons x xs ih =>
    rw [List.mapM_cons] at h
    obtain ⟨y, hy, h⟩ := bind_eq_ok_iff.mp h
    obtain ⟨ys', hys, h⟩ := bind_eq_ok_iff.mp h
    rw [← pure_eq_ok_iff.mp h]
    exact .cons hy (ih hys)

/-- A list is read if it is known what each member is read as. -/
theorem mapM_eq_ok_map {f : α → Except ε β} {g : α → β} {xs : List α}
    (h : ∀ x ∈ xs, f x = .ok (g x)) : xs.mapM f = .ok (xs.map g) := by
  induction xs with
  | nil => rfl
  | cons x xs ih =>
    obtain ⟨hx, hxs⟩ := List.forall_mem_cons.mp h
    rw [List.mapM_cons, List.map_cons]
    exact bind_eq_ok_iff.mpr ⟨g x, hx, bind_eq_ok_iff.mpr ⟨xs.map g, ih hxs, rfl⟩⟩

/-- A numbered list is read if every member is, whatever its number. -/
theorem mapM_zipIdx_eq_ok {f : α × Nat → Except ε β} {xs : List α} {ys : List β}
    (h : List.Forall₂ (fun x y => ∀ n, f (x, n) = .ok y) xs ys) (n : Nat) :
    (xs.zipIdx n).mapM f = .ok ys := by
  induction h generalizing n with
  | nil => rfl
  | @cons x y xs ys hxy _ ih =>
    rw [List.zipIdx_cons, List.mapM_cons]
    exact bind_eq_ok_iff.mpr ⟨y, hxy n, bind_eq_ok_iff.mpr ⟨ys, ih (n + 1), rfl⟩⟩

/-- A numbered list is read member by member, if the numbers do not matter for what is read. -/
theorem mapM_zipIdx_eq_ok_iff {f : α × Nat → Except ε β} {R : α → β → Prop}
    (hf : ∀ x n y, f (x, n) = .ok y ↔ R x y) {xs : List α} {ys : List β} {n : Nat} :
    (xs.zipIdx n).mapM f = .ok ys ↔ List.Forall₂ R xs ys := by
  constructor
  · intro h
    induction xs generalizing n ys with
    | nil =>
      rw [List.zipIdx_nil, List.mapM_nil] at h
      rw [← pure_eq_ok_iff.mp h]
      exact .nil
    | cons x xs ih =>
      rw [List.zipIdx_cons, List.mapM_cons] at h
      obtain ⟨y, hy, h⟩ := bind_eq_ok_iff.mp h
      obtain ⟨ys', hys, h⟩ := bind_eq_ok_iff.mp h
      rw [← pure_eq_ok_iff.mp h]
      exact .cons ((hf x n y).mp hy) (ih hys)
  · intro h
    exact mapM_zipIdx_eq_ok (h.imp fun x y hxy n => (hf x n y).mpr hxy) n

/-- **The error of a numbered list is the error of its first member that fails.** -/
theorem mapM_zipIdx_eq_error_iff {f : α × Nat → Except ε β} {xs : List α} {n : Nat} {e : ε} :
    (xs.zipIdx n).mapM f = .error e ↔
      ∃ i x, xs[i]? = some x ∧ f (x, n + i) = .error e ∧
        ∀ j < i, ∀ x', xs[j]? = some x' → ∃ y, f (x', n + j) = .ok y := by
  induction xs generalizing n with
  | nil => simp [pure_ne_error]
  | cons x xs ih =>
    rw [List.zipIdx_cons, List.mapM_cons, bind_eq_error_iff]
    constructor
    · rintro (hx | ⟨y, hy, h⟩)
      · exact ⟨0, x, rfl, hx, fun j hj => absurd hj (Nat.not_lt_zero j)⟩
      · have hrest : (xs.zipIdx (n + 1)).mapM f = .error e := by
          rcases bind_eq_error_iff.mp h with h | ⟨ys, -, h⟩
          · exact h
          · exact absurd h pure_ne_error
        obtain ⟨i, x', hx', hfails, hbefore⟩ := ih.mp hrest
        refine ⟨i + 1, x', hx', by rwa [Nat.add_right_comm] at hfails, ?_⟩
        intro j hj z hz
        cases j with
        | zero => exact ⟨y, Option.some.inj hz ▸ hy⟩
        | succ j =>
          have hread := hbefore j (Nat.lt_of_succ_lt_succ hj) z hz
          rwa [Nat.add_right_comm] at hread
    · rintro ⟨i, x', hx', hfails, hbefore⟩
      cases i with
      | zero => exact Or.inl (Option.some.inj hx' ▸ hfails)
      | succ i =>
        obtain ⟨y, hy⟩ := hbefore 0 (Nat.succ_pos i) x rfl
        have hrest : (xs.zipIdx (n + 1)).mapM f = .error e := by
          refine ih.mpr ⟨i, x', hx', by rwa [Nat.add_right_comm], ?_⟩
          intro j hj z hz
          rw [Nat.add_right_comm]
          exact hbefore (j + 1) (Nat.succ_lt_succ hj) z hz
        exact Or.inr ⟨y, hy, bind_eq_error_iff.mpr (Or.inl hrest)⟩

theorem exists_of_mem_forall₂ {R : α → β → Prop} {xs : List α} {ys : List β}
    (h : List.Forall₂ R xs ys) {x : α} (hx : x ∈ xs) : ∃ y ∈ ys, R x y := by
  induction h with
  | nil => exact absurd hx (by simp)
  | @cons x' y xs ys hxy _ ih =>
    rcases List.mem_cons.mp hx with rfl | hx
    · exact ⟨y, List.mem_cons_self, hxy⟩
    · obtain ⟨z, hz, hxz⟩ := ih hx
      exact ⟨z, List.mem_cons_of_mem y hz, hxz⟩

theorem exists_of_mem_of_mapM_eq_ok {f : α → Except ε β} {xs : List α} {ys : List β}
    (h : xs.mapM f = .ok ys) {y : β} (hy : y ∈ ys) : ∃ x ∈ xs, f x = .ok y :=
  exists_of_mem_forall₂ (forall₂_of_mapM_eq_ok h).flip hy

/-- The error of a list is an error of one of its members. -/
theorem exists_of_mapM_eq_error {f : α → Except ε β} {xs : List α} {e : ε}
    (h : xs.mapM f = .error e) : ∃ x ∈ xs, f x = .error e := by
  induction xs with
  | nil => exact absurd h pure_ne_error
  | cons x xs ih =>
    rw [List.mapM_cons] at h
    rcases bind_eq_error_iff.mp h with hx | ⟨y, -, h⟩
    · exact ⟨x, List.mem_cons_self, hx⟩
    · rcases bind_eq_error_iff.mp h with h | ⟨ys, -, h⟩
      · obtain ⟨z, hz, hfz⟩ := ih h
        exact ⟨z, List.mem_cons_of_mem x hz, hfz⟩
      · exact absurd h pure_ne_error

/-- **A list fails exactly if one of its members does.** -/
theorem exists_mapM_eq_error_iff {f : α → Except ε β} {xs : List α} :
    (∃ e, xs.mapM f = .error e) ↔ ∃ x ∈ xs, ∃ e, f x = .error e := by
  constructor
  · rintro ⟨e, he⟩
    obtain ⟨x, hx, hfx⟩ := exists_of_mapM_eq_error he
    exact ⟨x, hx, e, hfx⟩
  · rintro ⟨x, hx, e, he⟩
    cases h : xs.mapM f with
    | error e' => exact ⟨e', rfl⟩
    | ok ys =>
      obtain ⟨y, hy⟩ := exists_of_mapM_eq_ok h x hx
      rw [he] at hy
      exact absurd hy (by simp)

end Widgetry.Outcome
