import Widgetry.Proofs.Tallies
import Widgetry.Service.Session

/-!
# What a session leaves

The telemetry of a session is determined by the steps that were made while it was enabled and that
no reset has forgotten (`live`): its counters are the tally of the names that these steps count, and
its timed operations the tally of those that these steps time (`after_fresh`). So what holds of the
counters in all states of a session can be proved step by step, without a look at the state.
-/

namespace Widgetry

namespace Service

open Telemetry

/-! ## States -/

/-- The telemetry after a sequence of steps. -/
def after (t : Telemetry) (steps : List Step) : Telemetry :=
  steps.foldl (fun t step => (step.run t).2) t

/-- All states of a session: the telemetry in front of the first step, and after each one. -/
def states (t : Telemetry) (steps : List Step) : List Telemetry :=
  t :: (run t steps).map Prod.snd

/-- The state at a position is the telemetry after the steps in front of it. -/
theorem getElem?_states {t : Telemetry} {steps : List Step} {i : Nat} (h : i ≤ steps.length) :
    (states t steps)[i]? = some (after t (steps.take i)) := by
  induction steps generalizing t i with
  | nil =>
    obtain rfl := Nat.le_zero.mp h
    rfl
  | cons step rest ih =>
    cases i with
    | zero => rfl
    | succ i => exact ih (Nat.le_of_succ_le_succ h)

theorem length_states (t : Telemetry) (steps : List Step) :
    (states t steps).length = steps.length + 1 := by
  induction steps generalizing t with
  | nil => rfl
  | cons step rest ih => exact congrArg (· + 1) (ih (step.run t).2)

/-- A state is the telemetry after some of the steps at the front. -/
theorem exists_after_of_mem_states {t u : Telemetry} {steps : List Step} (h : u ∈ states t steps) :
    ∃ i, u = after t (steps.take i) := by
  obtain ⟨i, hi, rfl⟩ := List.mem_iff_getElem.mp h
  rw [length_states] at hi
  have hstate := getElem?_states (t := t) (Nat.le_of_lt_succ hi)
  exact ⟨i, (List.getElem?_eq_some_iff.mp hstate).choose_spec⟩

/-! ## What one step answers -/

theorem parse_fst (t : Telemetry) (source : Text) :
    (Service.parse t source).1 = parseBlock source := by
  rw [Service.parse]
  cases (parseBlock source).widget <;> rfl

theorem stream_fst (t : Telemetry) (source : Text) :
    (Service.stream t source).1 = Streaming.stream source := by
  rw [Service.stream]
  cases Streaming.stream source with
  | error e => rfl
  | ok result =>
    dsimp only
    cases result.detectedType <;> rfl

/-! ## What one step leaves -/

namespace Step

/-- Is the telemetry enabled after the step? It stays as it was, unless the step switches it. -/
def leaves (enabled : Bool) : Step → Bool
  | enable enabled => enabled
  | _ => enabled

/-- The names that the step counts while the telemetry is enabled. -/
def counted : Step → List Text
  | parse source =>
    [counterName parseOperation "total".toList, counterName parseOperation "ok".toList] ++
      match (parseBlock source).widget with
      | some w =>
        [counterName parseOperation "success".toList, counterName typeOperation w.keyword.text]
      | none => [counterName parseOperation "failure".toList]
  | stream source =>
    counterName streamOperation "total".toList ::
      match Streaming.stream source with
      | .error _ => [counterName streamOperation "error".toList]
      | .ok result =>
        counterName streamOperation "ok".toList ::
          match result.detectedType with
          | none => [counterName streamOperation "undetected".toList]
          | some name =>
            [counterName typeOperation name, counterName streamOperation (streamOutcome result)]
  | record operation outcome => [counterName operation outcome]
  | track operation fails =>
    [counterName operation "total".toList,
      counterName operation (if fails then "error".toList else "ok".toList)]
  | enable _ | reset => []

/-- The operations that the step times while the telemetry is enabled. -/
def timed : Step → List Text
  | parse _ => [parseOperation]
  | stream _ => [streamOperation]
  | track operation _ => [operation]
  | record _ _ | enable _ | reset => []

/-- **What one step leaves.** A step that is no reset adds the names that it counts and times, or
nothing while the telemetry is disabled. -/
theorem run_eq {step : Step} (h : step ≠ .reset) (t : Telemetry) :
    (step.run t).2 =
      { enabled := step.leaves t.enabled
        counters := if t.enabled then t.counters.bumpAll step.counted else t.counters
        timed := if t.enabled then t.timed.bumpAll step.timed else t.timed } := by
  obtain ⟨enabled, counters, timed⟩ := t
  cases step with
  | parse source =>
    show (Service.parse ⟨enabled, counters, timed⟩ source).2 = _
    rw [Service.parse, counted]
    cases (parseBlock source).widget <;> cases enabled <;> rfl
  | stream source =>
    show (Service.stream ⟨enabled, counters, timed⟩ source).2 = _
    rw [Service.stream, counted]
    cases Streaming.stream source with
    | error e => cases enabled <;> rfl
    | ok result =>
      dsimp only
      cases result.detectedType <;> cases enabled <;> rfl
  | record operation outcome => cases enabled <;> rfl
  | track operation fails => cases enabled <;> cases fails <;> rfl
  | enable enabled' => cases enabled <;> rfl
  | reset => exact absurd rfl h

end Step

/-! ## What a session leaves -/

/-- The steps that count: those that are made behind the last reset while the telemetry is
enabled. -/
def live (enabled : Bool) : List Step → List Step
  | [] => []
  | step :: rest =>
    if enabled = true ∧ Step.reset ∉ step :: rest then step :: live (step.leaves enabled) rest
    else live (step.leaves enabled) rest

/-- What it means that a step counts: the telemetry was enabled in front of it, and neither the step
nor one behind it is a reset. -/
theorem mem_live_iff {enabled : Bool} {steps : List Step} {step : Step} :
    step ∈ live enabled steps ↔ ∃ before behind, steps = before ++ step :: behind ∧
      before.foldl Step.leaves enabled = true ∧ Step.reset ∉ step :: behind := by
  induction steps generalizing enabled with
  | nil => simp [live]
  | cons first rest ih =>
    -- what the steps behind the first one count, said of the whole sequence
    have htail : step ∈ live (first.leaves enabled) rest ↔ ∃ before behind,
        first :: rest = (first :: before) ++ step :: behind ∧
          (first :: before).foldl Step.leaves enabled = true ∧ Step.reset ∉ step :: behind := by
      simp only [ih, List.cons_append, List.cons.injEq, true_and, List.foldl_cons]
    constructor
    · intro h
      rw [live] at h
      split_ifs at h with hlive
      · rcases List.mem_cons.mp h with rfl | hmem
        · exact ⟨[], rest, rfl, hlive⟩
        · obtain ⟨before, behind, hsteps⟩ := htail.mp hmem
          exact ⟨first :: before, behind, hsteps⟩
      · obtain ⟨before, behind, hsteps⟩ := htail.mp h
        exact ⟨first :: before, behind, hsteps⟩
    · rintro ⟨before, behind, hsteps, henabled, hreset⟩
      cases before with
      | nil =>
        obtain ⟨rfl, rfl⟩ := List.cons.inj hsteps
        rw [live, if_pos ⟨henabled, hreset⟩]
        exact List.mem_cons_self
      | cons other before =>
        obtain rfl := (List.cons.inj hsteps).1
        have hmem := htail.mpr ⟨before, behind, hsteps, henabled, hreset⟩
        rw [live]
        split_ifs
        · exact List.mem_cons_of_mem _ hmem
        · exact hmem

/-- **What a session leaves**, from any telemetry. -/
theorem after_eq (t : Telemetry) (steps : List Step) :
    after t steps =
      { enabled := steps.foldl Step.leaves t.enabled
        counters := Tally.bumpAll ((live t.enabled steps).flatMap Step.counted)
          (if Step.reset ∈ steps then [] else t.counters)
        timed := Tally.bumpAll ((live t.enabled steps).flatMap Step.timed)
          (if Step.reset ∈ steps then [] else t.timed) } := by
  induction steps generalizing t with
  | nil => rfl
  | cons step rest ih =>
    show after (step.run t).2 rest = _
    rw [ih]
    by_cases hstep : step = .reset
    · subst hstep
      have hlive : live t.enabled (.reset :: rest) = live t.enabled rest := by
        simp [live, Step.leaves]
      rw [hlive]
      simp [Step.run, Telemetry.reset, fresh, Step.leaves]
    · rw [Step.run_eq hstep]
      -- a reset further behind forgets this step and the telemetry in front of it alike
      by_cases hrest : Step.reset ∈ rest
      · have hlive : live t.enabled (step :: rest) = live (step.leaves t.enabled) rest := by
          simp [live, hrest]
        rw [hlive]
        simp [hrest]
      · cases henabled : t.enabled <;> simp [live, hrest, Ne.symm hstep, Tally.bumpAll_append]

/-- What a session leaves from nothing. -/
theorem after_fresh (enabled : Bool) (steps : List Step) :
    after (fresh enabled) steps =
      { enabled := steps.foldl Step.leaves enabled
        counters := Tally.ofNames ((live enabled steps).flatMap Step.counted)
        timed := Tally.ofNames ((live enabled steps).flatMap Step.timed) } := by
  rw [after_eq]
  simp only [fresh, ite_self, Tally.ofNames]

end Service

end Widgetry
