import Widgetry.Widget.Descriptor

/-!
# What is relied on in a guard

Descriptors say nothing of how deep they may be nested. All that is relied on is collected in
`DepthGuard.Lawful`: what is nested less deep than some limit is written, and as many forms are read
inside each other as are written. How a guard counts the nesting is left open.

The guard that runs is of this kind (`DepthGuard.lawful_standard`), for it counts the nesting or one
more, and a form is nested one deeper than its fields.
-/

namespace Widgetry

open Descriptor

/-- What a guard is relied on for. -/
structure DepthGuard.Lawful [DepthGuard] (limit : Nat) : Prop where
  /-- What is nested less deep than the limit is written. -/
  admits_of_nesting_lt : ∀ d : Described, d.nesting < limit → DepthGuard.admits d = true
  /-- As many forms are read inside each other as are written. -/
  forms_le : ∀ d : Described, DepthGuard.admits d = true → d.forms ≤ DepthGuard.maxForms

/-! ## The guard that runs -/

mutual

theorem Widget.forms_le_nesting : ∀ w : Widget, w.forms ≤ w.nesting
  | .form _ _ fields => Nat.succ_le_succ (Widget.listForms_le_listNesting fields)
  | .textInput _ | .buttonGroup _ | .select _ | .selectMulti _ | .slider _ | .chart _
  | .multipleChoice _ | .shortAnswer _ | .quiz _ => Nat.zero_le _

theorem Widget.listForms_le_listNesting :
    ∀ ws : List Widget, Widget.listForms ws ≤ Widget.listNesting ws
  | [] => Nat.le_refl _
  | w :: ws => Nat.max_le.mpr
      ⟨Nat.le_trans w.forms_le_nesting (Nat.le_max_left _ _),
        Nat.le_trans (Widget.listForms_le_listNesting ws) (Nat.le_max_right _ _)⟩

end

namespace DepthGuard

theorem nestingInPreview_bounds (w : Widget) :
    w.nesting ≤ nestingInPreview w ∧ nestingInPreview w ≤ w.nesting + 1 := by
  cases w with
  | chart w => exact ⟨Nat.le_succ _, Nat.le_refl _⟩
  | _ => exact ⟨Nat.le_refl _, Nat.le_succ _⟩

/-- The guard that runs counts the nesting, or one more. -/
theorem counted_bounds (d : Described) : d.nesting ≤ counted d ∧ counted d ≤ d.nesting + 1 := by
  have hlist (ws : List Widget) :
      Widget.listNesting ws ≤ (ws.map nestingInPreview).foldr Nat.max 0 ∧
        (ws.map nestingInPreview).foldr Nat.max 0 ≤ Widget.listNesting ws + 1 := by
    induction ws with
    | nil => exact ⟨Nat.le_refl _, Nat.zero_le _⟩
    | cons w ws ih =>
      obtain ⟨hlow, hhigh⟩ := nestingInPreview_bounds w
      show max _ _ ≤ max _ _ ∧ max _ _ ≤ max _ _ + 1
      omega
  cases d with
  | widget w =>
    show max w.nesting 0 ≤ w.nesting ∧ w.nesting ≤ max w.nesting 0 + 1
    omega
  | form p => exact hlist p.fields
  | result r => exact hlist _
  | streaming r => exact hlist _

/-- **The guard that runs is one that can be relied on.** -/
theorem lawful_standard : Lawful deepest where
  admits_of_nesting_lt d hnesting :=
    decide_eq_true (Nat.le_trans (counted_bounds d).2 hnesting)
  forms_le d hadmits :=
    calc d.forms
      _ ≤ d.nesting := Widget.listForms_le_listNesting d.widgets
      _ ≤ counted d := (counted_bounds d).1
      _ ≤ deepest := of_decide_eq_true hadmits

theorem descriptor_of_deep {w : Widget} (h : deepest < w.nesting) :
    w.descriptor = .error .tooDeep := by
  have hdeep : DepthGuard.admits (.widget w) = false := decide_eq_false (Nat.not_le.mpr h)
  rw [Widget.descriptor, ofForm, hdeep]
  rfl

end DepthGuard

end Widgetry
