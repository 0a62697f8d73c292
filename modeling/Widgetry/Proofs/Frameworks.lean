import Widgetry.Service.Http
import Mathlib.Data.List.Basic
import Mathlib.Tactic.Common

/-!
# What is relied on in a framework

The routes say nothing of how a request is decoded and checked and how an answer is written. What
they rely on there is collected in `Documented`: which values are accepted, which status a refusal
has, when a report on a value can be written, and what becomes of numbers that JSON has no notation
for. How requests are routed and bodies decoded is left open.

The framework that runs is of this kind (`documented_standard`).
-/

namespace Widgetry

/-! ## Code points -/

namespace Text

theorem charOf?_eq_some_iff {point : Nat} {c : Char} :
    charOf? point = some c ↔ point = c.toNat := by
  constructor
  · intro h
    by_cases hvalid : point.isValidChar
    · rw [charOf?, dif_pos hvalid] at h
      obtain rfl := Option.some.inj h
      rfl
    · rw [charOf?, dif_neg hvalid] at h
      cases h
  · rintro rfl
    have hvalid : c.toNat.isValidChar := c.valid
    rw [charOf?, dif_pos hvalid]
    rfl

/-- **Code points are those of one text**, or of none. -/
theorem ofCodePoints?_eq_some_iff {points : List Nat} {t : Text} :
    ofCodePoints? points = some t ↔ points = codePoints t := by
  unfold ofCodePoints? codePoints
  induction points generalizing t with
  | nil => cases t <;> simp
  | cons point points ih =>
    cases t <;> simp [List.mapM_cons, Option.bind_eq_some_iff, charOf?_eq_some_iff, ih]

end Text

/-! ## Values that have a field -/

/-- The value is an object in which the field has this text, and the field allows its length. -/
def RawJson.Offers (v : RawJson) (f : Schema.TextField) (t : Text) : Prop :=
  ∃ members, v = .obj members ∧
    members.lookup (Text.codePoints f.key) = some (.str (Text.codePoints t)) ∧
    f.least ≤ t.length ∧ t.length ≤ f.most

theorem Checked.value?_andThen {α β : Type} (c : Checked α) (check : α → Checked β) :
    (c.andThen check).value? = c.value?.bind fun a => (check a).value? := by
  cases c with
  | valid a used =>
    show (Checked.andThen _ _).value? = (check a).value?
    rw [andThen]
    cases check a <;> rfl
  | invalid issues => rfl

/-- A string is read if it is a text. -/
theorem RawJson.value?_toText_iff {v : RawJson} {t : Text} :
    v.toText.value? = some t ↔ v = .str (Text.codePoints t) := by
  cases v with
  | str points =>
    rw [RawJson.str.injEq, ← Text.ofCodePoints?_eq_some_iff, toText]
    cases Text.ofCodePoints? points with
    | some found => rfl
    | none => simp
  | _ => simp [toText]

namespace Schema.TextField

theorem value?_bounded_iff {f : TextField} {t t' : Text} :
    (f.bounded t).value? = some t' ↔ t = t' ∧ f.least ≤ t.length ∧ t.length ≤ f.most := by
  rw [bounded]
  split_ifs with hshort hlong
  · rw [Checked.value?_fail]
    grind
  · rw [Checked.value?_fail]
    grind
  · rw [Checked.value?_pure, Option.some_inj]
    grind

/-- **What makes a value a request.** -/
theorem value?_ofRaw_iff {f : TextField} {v : RawJson} {t : Text} :
    (f.ofRaw v).value? = some t ↔ v.Offers f t := by
  cases v with
  | obj members =>
    have hvalue : (f.ofRaw (.obj members)).value? = some t ↔
        ∃ v, members.lookup (Text.codePoints f.key) = some v ∧
          (v.toText.andThen f.bounded).value? = some t := by
      rw [ofRaw]
      cases members.lookup (Text.codePoints f.key) with
      | some v => simp [required]
      | none => simp [required]
    simp only [hvalue, RawJson.Offers, Checked.value?_andThen, Option.bind_eq_some_iff,
      RawJson.value?_toText_iff, value?_bounded_iff]
    grind
  | _ => simp [ofRaw, RawJson.Offers]

end Schema.TextField

/-! ## Frameworks -/

namespace Http

namespace Framework

variable {Request : Type}

/-- The body is an object with a source text that is neither empty nor too long. -/
def Carries (F : Framework Request) (r : Request) (source : Text) : Prop :=
  ∃ v, F.decode r = .ok v ∧ v.Offers Schema.sourceText source

/-- Nothing in the body keeps a report on it from being written. -/
def Quotable (F : Framework Request) (r : Request) : Prop :=
  ∀ v, F.decode r = .ok v → v.isWritable = true

/-- What a framework is relied on for. -/
structure Documented (F : Framework Request) : Prop where
  /-- A value is accepted exactly if the field has a text in it. -/
  validate_iff : ∀ f v t, F.validate f v = .ok t ↔ v.Offers f t
  status_missing : (F.reject .missing).status = 422
  status_notJson : (F.reject .notJson).status = 422
  status_unreadable : (F.reject .unreadable).status = 400
  status_report : ∀ v issues response, F.report? v issues = some response → response.status = 422
  /-- A report quotes from the value that it is on. -/
  report_of_writable : ∀ v issues, v.isWritable = true → (F.report? v issues).isSome = true
  /-- Numbers that JSON has no notation for are written as `null`. -/
  content_eq : ∀ v, F.content v = ⟨200, v.writable⟩
  status_failure : F.failure.status = 500

end Framework

theorem isWritable_of_lookup {key : List Nat} {members : List (List Nat × RawJson)} {v : RawJson}
    (hmembers : RawJson.membersWritable members = true) (h : members.lookup key = some v) :
    v.isWritable = true := by
  induction members with
  | nil => cases h
  | cons member rest ih =>
    obtain ⟨k, u⟩ := member
    rw [RawJson.membersWritable, Bool.and_eq_true, Bool.and_eq_true] at hmembers
    obtain ⟨⟨-, hu⟩, hrest⟩ := hmembers
    rw [List.lookup_cons] at h
    cases hkey : key == k with
    | true =>
      rw [hkey] at h
      obtain rfl := Option.some.inj h
      exact hu
    | false =>
      rw [hkey] at h
      exact ih hrest h

/-- What is quoted of a value can be written if the value can. -/
theorem isWritable_culprit {f : Schema.TextField} {v : RawJson} (h : v.isWritable = true) :
    (culprit f v).isWritable = true := by
  cases v with
  | obj members =>
    rw [culprit]
    cases hmember : members.lookup (Text.codePoints f.key) with
    | none => exact h
    | some v =>
      rw [RawJson.isWritable] at h
      exact isWritable_of_lookup h hmember
  | _ => exact h

/-- **The framework that runs is one that can be relied on.** -/
theorem documented_standard : standard.Documented where
  validate_iff f v t := by
    rw [← Schema.TextField.value?_ofRaw_iff]
    show validate f v = .ok t ↔ _
    rw [validate]
    cases f.ofRaw v <;> simp [Checked.value?]
  status_missing := rfl
  status_notJson := rfl
  status_unreadable := rfl
  status_report v issues response h := by
    have hreport : report? v issues = some response := h
    rw [report?] at hreport
    split_ifs at hreport
    obtain rfl := Option.some.inj hreport
    rfl
  report_of_writable v issues h := by
    show (report? v issues).isSome = true
    rw [report?, if_pos (isWritable_culprit h)]
    rfl
  content_eq v := rfl
  status_failure := rfl

/-- The framework that runs takes a request for a route by its method and its path. -/
theorem route?_standard (route : Route) (body : Text) :
    standard.route? ⟨route.method.text, route.path, body⟩ = some route := by
  cases route <;> rfl

end Http

end Widgetry
