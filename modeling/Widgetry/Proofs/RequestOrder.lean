import Widgetry.Proofs.Sessions

/-!
# The order of requests

What a request is answered does not depend on the telemetry (`Step.run_fst`), and counts commute. So
requests that neither switch the telemetry nor reset it may be made in any order: each is answered
the same at its new place, and the telemetry ends the same (`orderFree_of_perm`). It does not matter
whether their names coincide, and whether some of them fail and so count less.

A switch or a reset has to be left out, for it divides the requests into those that count and those
that do not.
-/

namespace Widgetry.Service

open Telemetry Tally

/-! ## One request -/

namespace Step

/-- Is it a request that does nothing to the telemetry but count? -/
def onlyCounts : Step → Bool
  | parse _ | stream _ | record _ _ | track _ _ => true
  | enable _ | reset => false

/-- What the request is answered, whatever has been counted. -/
def answer : Step → Answer
  | parse source => .parsed (parseBlock source)
  | stream source => .streamed (Streaming.stream source)
  | track _ fails => if fails then .failed else .done
  | record _ _ | enable _ | reset => .done

theorem run_fst (step : Step) (t : Telemetry) : (step.run t).1 = step.answer := by
  cases step with
  | parse source => exact congrArg Answer.parsed (parse_fst t source)
  | stream source => exact congrArg Answer.streamed (stream_fst t source)
  | record operation outcome => rfl
  | track operation fails => rfl
  | enable enabled => rfl
  | reset => rfl

theorem ne_reset_of_onlyCounts {step : Step} (h : step.onlyCounts = true) : step ≠ .reset := by
  rintro rfl
  exact Bool.false_ne_true h

theorem leaves_of_onlyCounts {step : Step} (h : step.onlyCounts = true) (enabled : Bool) :
    step.leaves enabled = enabled := by
  cases step with
  | enable => exact absurd h Bool.false_ne_true
  | parse | stream | record | track | reset => rfl

end Step

/-! ## A sequence of requests -/

theorem map_fst_run (t : Telemetry) (steps : List Step) :
    (run t steps).map Prod.fst = steps.map Step.answer := by
  induction steps generalizing t with
  | nil => rfl
  | cons step rest ih => exact congrArg₂ List.cons (step.run_fst t) (ih (step.run t).2)

/-- The answer at a place is that to the request at this place. -/
theorem answer_getElem?_run (t : Telemetry) (steps : List Step) (i : Nat) :
    (run t steps)[i]?.map Prod.fst = steps[i]?.map Step.answer := by
  rw [← List.getElem?_map, map_fst_run, List.getElem?_map]

variable {steps steps' : List Step}

/-- All of them count, or none of them. -/
theorem live_of_onlyCounts (h : ∀ step ∈ steps, step.onlyCounts = true) (enabled : Bool) :
    live enabled steps = if enabled then steps else [] := by
  induction steps with
  | nil => exact (ite_self []).symm
  | cons step rest ih =>
    have hreset : Step.reset ∉ step :: rest := fun hmem =>
      Step.ne_reset_of_onlyCounts (h _ hmem) rfl
    obtain ⟨hstep, hrest⟩ := List.forall_mem_cons.mp h
    rw [live, Step.leaves_of_onlyCounts hstep, ih hrest]
    cases enabled with
    | true => rw [if_pos ⟨rfl, hreset⟩]; rfl
    | false => rw [if_neg fun hlive => Bool.false_ne_true hlive.1]; rfl

/-- What the requests leave from nothing: the tallies of all names that they count and time. -/
theorem after_of_onlyCounts (h : ∀ step ∈ steps, step.onlyCounts = true) (enabled : Bool) :
    (after (fresh enabled) steps).counters =
        ofNames ((if enabled then steps else []).flatMap Step.counted) ∧
      (after (fresh enabled) steps).timed =
        ofNames ((if enabled then steps else []).flatMap Step.timed) := by
  rw [after_fresh, live_of_onlyCounts h]
  exact ⟨rfl, rfl⟩

/-! ## Other orders -/

/-- Nothing tells the second sequence of requests from the first one, if each answer is looked up at
the new place of its request. -/
structure OrderFree (enabled : Bool) (steps steps' : List Step) : Prop where
  counters : (after (fresh enabled) steps').counters = (after (fresh enabled) steps).counters
  timed : ∀ operation, operation ∈ (after (fresh enabled) steps').timed.names ↔
    operation ∈ (after (fresh enabled) steps).timed.names
  answers : ∀ i j : Nat, steps[i]? = steps'[j]? →
    (run (fresh enabled) steps)[i]?.map Prod.fst = (run (fresh enabled) steps')[j]?.map Prod.fst
  /-- While the telemetry is disabled, nothing is counted or timed at any time. -/
  silent : enabled = false → ∀ t ∈ states (fresh enabled) steps, t.counters = [] ∧ t.timed = []

/-- **The telemetry does not depend on the order of the requests**, and no answer does. -/
theorem orderFree_of_perm {enabled : Bool} (hsteps : ∀ step ∈ steps, step.onlyCounts = true)
    (hperm : steps.Perm steps') : OrderFree enabled steps steps' := by
  have hsteps' : ∀ step ∈ steps', step.onlyCounts = true := fun step hmem =>
    hsteps step (hperm.mem_iff.mpr hmem)
  have hlive : (if enabled then steps' else []).Perm (if enabled then steps else []) := by
    cases enabled with
    | true => exact hperm.symm
    | false => exact List.Perm.refl []
  obtain ⟨hcounters, htimed⟩ := after_of_onlyCounts hsteps enabled
  obtain ⟨hcounters', htimed'⟩ := after_of_onlyCounts hsteps' enabled
  constructor
  case counters =>
    rw [hcounters, hcounters']
    exact bumpAll_perm (hlive.flatMap_right Step.counted) []
  case timed =>
    intro operation
    rw [htimed, htimed', mem_names_ofNames, mem_names_ofNames]
    exact (hlive.flatMap_right Step.timed).mem_iff
  case answers =>
    intro i j hplace
    rw [answer_getElem?_run, answer_getElem?_run, hplace]
  case silent =>
    rintro rfl t ht
    obtain ⟨i, rfl⟩ := exists_after_of_mem_states ht
    exact after_of_onlyCounts (fun step hmem => hsteps step (List.mem_of_mem_take hmem)) false

/-- A session may count under the names of a service, and time its operation. -/
theorem orderFree_shared_names :
    let steps := [Step.parse "text-input a".toList, .record parseOperation "ok".toList,
      .stream "select a [b".toList, .track parseOperation true, .parse "input a".toList]
    let steps' := steps.reverse
    steps.Perm steps' ∧ (after (fresh true) steps).counters.count
      (counterName parseOperation "total".toList) = 3 ∧ OrderFree true steps steps' := by
  intro steps steps'
  have hperm : steps.Perm steps' := steps.reverse_perm.symm
  exact ⟨hperm, by decide +kernel, orderFree_of_perm (by decide) hperm⟩

end Widgetry.Service
