import Widgetry.Proofs.AssignmentLines
import Widgetry.Proofs.Utf8

/-!
# Loading a settings file

What loading leaves behind is said by the assignments that have been made, a front part of those in
the file (`Applies`). A variable has the value that it had, and if it had none the one of its first
assignment (`valueAfter`). All assignments are made up to the first one that `Stops` the loading.

Each assignment that has been made has its variable in the environment from then on, so in a second
loading there is nothing to do for it, and the second loading ends where the first one did.
-/

namespace Widgetry.Settings

open Text

/-! ## Making assignments -/

/-- An environment cannot hold the assignment. -/
def HasNul (a : Text × Text) : Prop := '\x00' ∈ a.1 ∨ '\x00' ∈ a.2

instance (a : Text × Text) : Decidable (HasNul a) :=
  inferInstanceAs (Decidable ('\x00' ∈ a.1 ∨ '\x00' ∈ a.2))

/-- The value of a variable when assignments have been made: the one that it had, and if it had none
the one of its first assignment. -/
def valueAfter (env : Environment) (made : List (Text × Text)) (key : Text) : Option Text :=
  (env.lookup key).or (made.lookup key)

/-- The assignment ends the loading: it has a NUL in it, and its variable has no value yet. -/
def Stops (env : Environment) (made : List (Text × Text)) (a : Text × Text) : Prop :=
  valueAfter env made a.1 = none ∧ HasNul a

/-- What making assignments leaves behind. Those of `before` have been made, and none of them ends
the loading. It has come to its end, or the next assignment has ended it. -/
structure Applies (env : Environment) (before after : List (Text × Text)) (env' : Environment)
    (error : Option LoadError) : Prop where
  values : ∀ key, env'.lookup key = valueAfter env before key
  passed : ∀ made a rest, before = made ++ a :: rest → ¬ Stops env made a
  ended : after = [] ∧ error = none ∨
    ∃ a rest, after = a :: rest ∧ Stops env before a ∧ error = some .embeddedNul

theorem lookup_eq_none_iff {env : Environment} {key : Text} :
    env.lookup key = none ↔ key ∉ env.map Prod.fst := by
  rw [← Option.not_isSome_iff_eq_none, List.lookup_isSome_iff, List.mem_map]
  refine not_congr (exists_congr fun a => and_congr_right fun _ => ?_)
  rw [beq_iff_eq, eq_comm]

section

variable {env env₁ env' : Environment} {a : Text × Text} {before after rest : List (Text × Text)}
  {error : Option LoadError}

theorem assign_cons_of_isSome (h : (env.lookup a.1).isSome) :
    assign env (a :: rest) = assign env rest :=
  if_pos h

theorem hasNul_iff_contains :
    (a.1.contains '\x00' || a.2.contains '\x00') = true ↔ HasNul a := by
  simp [HasNul]

theorem assign_cons_of_hasNul (h : env.lookup a.1 = none) (hnul : HasNul a) :
    assign env (a :: rest) = (env, some .embeddedNul) := by
  rw [assign, if_neg (by simp [h]), if_pos (hasNul_iff_contains.mpr hnul)]

theorem assign_cons_of_none (h : env.lookup a.1 = none) (hnul : ¬ HasNul a) :
    assign env (a :: rest) = assign (env ++ [a]) rest := by
  rw [assign, if_neg (by simp [h]), if_neg (mt hasNul_iff_contains.mp hnul)]

/-- An assignment to a variable that has a value is no matter. -/
theorem valueAfter_of_isSome (h : (env.lookup a.1).isSome) (key : Text) :
    valueAfter env [a] key = env.lookup key := by
  by_cases hkey : key = a.1
  · rw [valueAfter, hkey, Option.or_of_isSome h]
  · have hnone : [a].lookup key = none := lookup_eq_none_iff.mpr (by simpa using hkey)
    rw [valueAfter, hnone, Option.or_none]

theorem valueAfter_cons (h : ∀ key, env₁.lookup key = valueAfter env [a] key)
    (made : List (Text × Text)) (key : Text) :
    valueAfter env₁ made key = valueAfter env (a :: made) key := by
  rw [valueAfter, h, valueAfter, Option.or_assoc, ← List.lookup_append]
  rfl

/-- One more assignment in front. In `env₁` it has been made. -/
theorem Applies.cons (hmade : ∀ key, env₁.lookup key = valueAfter env [a] key)
    (hpassed : ¬ Stops env [] a) (h : Applies env₁ before after env' error) :
    Applies env (a :: before) after env' error where
  values key := (h.values key).trans (valueAfter_cons hmade before key)
  passed := by
    intro made b rest hbefore
    cases made with
    | nil =>
      obtain ⟨rfl, -⟩ := List.cons.inj hbefore
      exact hpassed
    | cons c made =>
      obtain ⟨rfl, htail⟩ := List.cons.inj hbefore
      intro hstops
      apply h.passed made b rest htail
      rwa [Stops, valueAfter_cons hmade]
  ended := by
    refine h.ended.imp_right ?_
    rintro ⟨b, rest, hafter, hstops, herror⟩
    refine ⟨b, rest, hafter, ?_, herror⟩
    rwa [Stops, ← valueAfter_cons hmade]

/-- No assignment has been made. -/
theorem Applies.nil
    (hended : after = [] ∧ error = none ∨
      ∃ a rest, after = a :: rest ∧ Stops env [] a ∧ error = some .embeddedNul) :
    Applies env [] after env error where
  values _ := Option.or_none.symm
  passed := by simp
  ended := hended

/-- **Assignments are made up to the first one that ends the loading.** -/
theorem applies_assign (env : Environment) (assignments : List (Text × Text)) :
    ∃ before after, before ++ after = assignments ∧
      Applies env before after (assign env assignments).1 (assign env assignments).2 := by
  induction assignments generalizing env with
  | nil => exact ⟨[], [], rfl, .nil (Or.inl ⟨rfl, rfl⟩)⟩
  | cons a rest ih =>
    cases hkey : env.lookup a.1 with
    | some value =>
      -- skipped is as good as made, for the variable has its value in front of the assignment
      have hsome : (env.lookup a.1).isSome := by rw [hkey, Option.isSome_some]
      obtain ⟨before, after, hparts, h⟩ := ih env
      rw [assign_cons_of_isSome hsome]
      refine ⟨a :: before, after, congrArg (a :: ·) hparts, h.cons ?_ ?_⟩
      · exact fun key => (valueAfter_of_isSome hsome key).symm
      · rintro ⟨hnone, -⟩
        rw [valueAfter, hkey, Option.some_or] at hnone
        cases hnone
    | none =>
      by_cases hnul : HasNul a
      · rw [assign_cons_of_hasNul hkey hnul]
        have hstops : Stops env [] a := ⟨by rw [valueAfter, hkey]; rfl, hnul⟩
        exact ⟨[], a :: rest, rfl, .nil (Or.inr ⟨a, rest, rfl, hstops, rfl⟩)⟩
      · obtain ⟨before, after, hparts, h⟩ := ih (env ++ [a])
        rw [assign_cons_of_none hkey hnul]
        refine ⟨a :: before, after, congrArg (a :: ·) hparts, h.cons ?_ ?_⟩
        · exact fun key => List.lookup_append
        · exact fun hstops => hnul hstops.2

/-! ## Loading again -/

theorem assign_append_of_isSome (h : ∀ a ∈ before, (env.lookup a.1).isSome) :
    assign env (before ++ after) = assign env after := by
  induction before with
  | nil => rfl
  | cons a before ih =>
    rw [List.cons_append, assign_cons_of_isSome (h a List.mem_cons_self),
      ih fun b hb => h b (List.mem_cons_of_mem a hb)]

/-- **Making the same assignments again changes nothing**, and ends the same way. -/
theorem Applies.again (h : Applies env before after env' error) :
    assign env' (before ++ after) = (env', error) := by
  have hmade : ∀ a ∈ before, (env'.lookup a.1).isSome := by
    intro a ha
    have hlookup : (before.lookup a.1).isSome :=
      List.lookup_isSome_iff.mpr ⟨a, ha, beq_self_eq_true _⟩
    rw [h.values, valueAfter, Option.isSome_or, hlookup, Bool.or_true]
  rw [assign_append_of_isSome hmade]
  rcases h.ended with ⟨rfl, rfl⟩ | ⟨a, rest, rfl, ⟨hnone, hnul⟩, rfl⟩
  · rfl
  · exact assign_cons_of_hasNul ((h.values a.1).trans hnone) hnul

end

/-! ## Well-formed environments -/

/-- A real environment: no variable occurs twice, and there is no NUL in it. -/
structure Environment.WellFormed (env : Environment) : Prop where
  distinct : (env.map Prod.fst).Nodup
  noNul : ∀ a ∈ env, ¬ HasNul a

theorem Environment.WellFormed.append {env : Environment} (h : env.WellFormed) {a : Text × Text}
    (hkey : env.lookup a.1 = none) (hnul : ¬ HasNul a) : Environment.WellFormed (env ++ [a]) where
  distinct := by
    rw [List.map_append, List.nodup_append]
    refine ⟨h.distinct, List.pairwise_singleton _ a.1, ?_⟩
    rintro key hmem key' hlast rfl
    obtain rfl : key = a.1 := List.mem_singleton.mp hlast
    exact lookup_eq_none_iff.mp hkey hmem
  noNul := by
    intro b hb
    rcases List.mem_append.mp hb with hb | hb
    · exact h.noNul b hb
    · rwa [List.mem_singleton.mp hb]

theorem wellFormed_assign {env : Environment} (h : env.WellFormed)
    (assignments : List (Text × Text)) : (assign env assignments).1.WellFormed := by
  induction assignments generalizing env with
  | nil => exact h
  | cons a rest ih =>
    cases hkey : env.lookup a.1 with
    | some value =>
      rw [assign_cons_of_isSome (by rw [hkey, Option.isSome_some])]
      exact ih h
    | none =>
      by_cases hnul : HasNul a
      · rw [assign_cons_of_hasNul hkey hnul]
        exact h
      · rw [assign_cons_of_none hkey hnul]
        exact ih (h.append hkey hnul)

/-! ## Loading -/

theorem load_toUtf8 (env : Environment) (content : Text) :
    load env (toUtf8 content) = assign env (assignments content) := by
  rw [load, ofUtf8_toUtf8]

/-- **Loading keeps an environment well-formed**, whatever is in the file. -/
theorem wellFormed_load {env : Environment} (h : env.WellFormed) (bytes : List UInt8) :
    (load env bytes).1.WellFormed := by
  unfold load
  cases ofUtf8 bytes with
  | error fault => exact h
  | ok content => exact wellFormed_assign h (assignments content)

/-- What loading a file leaves behind. -/
structure Loaded (env : Environment) (bytes : List UInt8) (env' : Environment)
    (error : Option LoadError) : Prop where
  /-- Nothing is overridden. -/
  kept : ∀ key value, env.lookup key = some value → env'.lookup key = some value
  /-- A file that encodes no text changes nothing. -/
  refused : (∀ content, toUtf8 content ≠ bytes) →
    env' = env ∧ ∃ fault, error = some (.notUtf8 fault)
  /-- The assignments on the lines of any other file are made in order. -/
  applied : ∀ content, toUtf8 content = bytes → ∃ before after,
    Assigned (splitLines content) (before ++ after) ∧ Applies env before after env' error
  /-- Loading the file again changes nothing, and ends the same way. -/
  again : load env' bytes = (env', error)

/-- **Loading a settings file overrides nothing**, makes the assignments in the file up to the one
that ends the loading, and has been done when it has been done once. -/
theorem loaded_load (env : Environment) (bytes : List UInt8) :
    Loaded env bytes (load env bytes).1 (load env bytes).2 := by
  cases hbytes : ofUtf8 bytes with
  | error fault =>
    have hload : load env bytes = (env, some (.notUtf8 fault)) := by rw [load, hbytes]
    rw [hload]
    refine ⟨fun key value h => h, fun _ => ⟨rfl, fault, rfl⟩, fun content hcontent => ?_, hload⟩
    rw [ofUtf8_eq_ok_iff.mpr hcontent] at hbytes
    cases hbytes
  | ok content =>
    obtain rfl := ofUtf8_eq_ok_iff.mp hbytes
    obtain ⟨before, after, hparts, happlies⟩ := applies_assign env (assignments content)
    rw [load_toUtf8]
    refine ⟨fun key value h => ?_, fun h => absurd rfl (h content), fun content' hcontent => ?_, ?_⟩
    · rw [happlies.values, valueAfter, h, Option.some_or]
    · obtain rfl : content' = content := by
        rw [ofUtf8_eq_ok_iff.mpr hcontent] at hbytes
        exact Except.ok.inj hbytes
      refine ⟨before, after, ?_, happlies⟩
      rw [hparts]
      exact assigned_assignments content'
    · have hagain := happlies.again
      rwa [hparts, ← load_toUtf8] at hagain

end Widgetry.Settings
