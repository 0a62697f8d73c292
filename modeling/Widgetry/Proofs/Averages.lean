import Widgetry.Proofs.Outcome
import Widgetry.Proofs.Sessions
import Widgetry.Service.Latency

/-!
# Average latencies

A snapshot divides the time that an operation has taken by a counter that is kept apart from it,
under another name, and anyone may count under that name. Yet it is defined in all states of a
session (`averaged_afterClocked`): the time of an operation is added up only where its run is counted
too, and a reset forgets both.

Other requests can only add to the counter. So no total is divided by less than the runs it is made
of (`count_timed_le_total`).
-/

namespace Widgetry

/-! ## Durations of operations -/

namespace Latencies

variable {Duration : Type} [Zero Duration] [Add Duration] {latencies : Latencies Duration}
  {operation other : Text} {elapsed : Duration}

theorem mem_names_add :
    other ∈ (latencies.add operation elapsed).names ↔
      other = operation ∨ other ∈ latencies.names := by
  induction latencies with
  | nil => simp [add, names]
  | cons entry rest ih =>
    obtain ⟨first, total⟩ := entry
    unfold names at ih ⊢
    rw [add]
    split_ifs with heq
    · rw [heq, List.map_cons, List.map_cons, List.mem_cons, or_self_left]
    · rw [List.map_cons, List.map_cons, List.mem_cons, List.mem_cons, ih, or_left_comm]

/-- An operation that is timed again gets no second entry. -/
theorem nodup_names_add (h : latencies.names.Nodup) :
    (latencies.add operation elapsed).names.Nodup := by
  induction latencies with
  | nil => exact List.pairwise_singleton _ operation
  | cons entry rest ih =>
    obtain ⟨first, total⟩ := entry
    obtain ⟨hfirst, hrest⟩ : first ∉ names rest ∧ (names rest).Nodup := List.nodup_cons.mp h
    rw [add]
    split_ifs with heq
    · exact h
    · refine List.nodup_cons.mpr ⟨?_, ih hrest⟩
      intro hmem
      rcases mem_names_add.mp hmem with hsame | hmem
      · exact heq hsame.symm
      · exact hfirst hmem

end Latencies

/-! ## Snapshots -/

namespace Clocked

open Telemetry

variable {Duration : Type} {c : Clocked Duration}

theorem runs_eq_count {operation : Text}
    (h : 1 ≤ c.telemetry.counters.count (counterName operation "total".toList)) :
    c.runs operation = c.telemetry.counters.count (counterName operation "total".toList) := by
  rw [runs, Tally.lookup_of_count_pos h]
  rfl

/-- **What a snapshot shows**, if every operation that was timed has a counter of its runs. -/
theorem snapshot_eq_ok [HDiv Duration Nat Duration]
    (h : ∀ operation ∈ c.latencies.names,
      1 ≤ c.telemetry.counters.count (counterName operation "total".toList)) :
    c.snapshot = .ok
      { counters := c.telemetry.counters
        averages := c.latencies.map fun (operation, total) => (operation, total /
          c.telemetry.counters.count (counterName operation "total".toList)) } := by
  rw [snapshot, Outcome.bind_eq_ok_iff]
  refine ⟨_, Outcome.mapM_eq_ok_map fun entry hentry => ?_, rfl⟩
  have hcount := h entry.1 (List.mem_map_of_mem hentry)
  show (average entry.2 (c.runs entry.1)).map _ = _
  rw [runs_eq_count hcount, average, if_neg (Nat.one_le_iff_ne_zero.mp hcount)]
  rfl

end Clocked

namespace Service

open Telemetry Tally

/-! ## The counter of the runs -/

/-- Where an operation is timed, its run is counted. -/
theorem count_le_count_total (ran operation : Text) (others : List Text) :
    [ran].count operation ≤ (counterName ran "total".toList :: others).count
      (counterName operation "total".toList) := by
  by_cases heq : operation = ran
  · rw [heq, List.count_singleton_self, List.count_cons_self]
    exact Nat.le_add_left 1 _
  · rw [List.count_eq_zero_of_not_mem (by simpa using heq)]
    exact Nat.zero_le _

/-- **A step counts the run of an operation as often as it times it**, or more often. -/
theorem Step.count_timed_le_counted (step : Step) (operation : Text) :
    step.timed.count operation ≤ step.counted.count (counterName operation "total".toList) := by
  cases step with
  | parse source => exact count_le_count_total parseOperation operation _
  | stream source => exact count_le_count_total streamOperation operation _
  | track ran fails => exact count_le_count_total ran operation _
  | record | enable | reset => exact Nat.zero_le _

theorem count_flatMap_timed_le (steps : List Step) (operation : Text) :
    (steps.flatMap Step.timed).count operation ≤
      (steps.flatMap Step.counted).count (counterName operation "total".toList) := by
  induction steps with
  | nil => exact Nat.le_refl 0
  | cons step rest ih =>
    rw [List.flatMap_cons, List.flatMap_cons, List.count_append, List.count_append]
    exact Nat.add_le_add (step.count_timed_le_counted operation) ih

/-- **No operation was timed more often than its runs were counted**, in any state of a session. -/
theorem count_timed_le_total (enabled : Bool) (steps : List Step) (operation : Text) :
    (after (fresh enabled) steps).timed.count operation ≤
      (after (fresh enabled) steps).counters.count (counterName operation "total".toList) := by
  rw [after_fresh, count_ofNames, count_ofNames]
  exact count_flatMap_timed_le _ operation

theorem one_le_total {enabled : Bool} {steps : List Step} {operation : Text}
    (h : operation ∈ (after (fresh enabled) steps).timed.names) :
    1 ≤ (after (fresh enabled) steps).counters.count (counterName operation "total".toList) := by
  refine Nat.le_trans ?_ (count_timed_le_total enabled steps operation)
  rw [after_fresh, mem_names_ofNames] at h
  rw [after_fresh, count_ofNames]
  exact List.one_le_count_iff.mpr h

/-! ## The operations that were timed -/

/-- Some step has run the operation while the telemetry was enabled, well or not, and no reset came
behind it. -/
def Tracked (enabled : Bool) (steps : List Step) (operation : Text) : Prop :=
  ∃ before step behind, steps = before ++ step :: behind ∧ operation ∈ step.timed ∧
    (after (fresh enabled) before).enabled = true ∧ Step.reset ∉ behind

theorem mem_flatMap_live_iff {enabled : Bool} {steps : List Step} {operation : Text} :
    operation ∈ (live enabled steps).flatMap Step.timed ↔ Tracked enabled steps operation := by
  rw [List.mem_flatMap]
  constructor
  · rintro ⟨step, hlive, htimed⟩
    obtain ⟨before, behind, hsteps, henabled, hreset⟩ := mem_live_iff.mp hlive
    refine ⟨before, step, behind, hsteps, htimed, ?_, List.not_mem_of_not_mem_cons hreset⟩
    rwa [after_fresh]
  · rintro ⟨before, step, behind, hsteps, htimed, henabled, hreset⟩
    rw [after_fresh] at henabled
    -- a reset times nothing, so the step itself is none
    have hstep : Step.reset ≠ step := by
      rintro rfl
      exact List.not_mem_nil htimed
    have hbehind : Step.reset ∉ step :: behind := List.not_mem_cons_of_ne_of_not_mem hstep hreset
    exact ⟨step, mem_live_iff.mpr ⟨before, behind, hsteps, henabled, hbehind⟩, htimed⟩

/-- The telemetry remembers the operations that were tracked. -/
theorem mem_timed_iff {enabled : Bool} {steps : List Step} {operation : Text} :
    operation ∈ (after (fresh enabled) steps).timed.names ↔ Tracked enabled steps operation := by
  rw [after_fresh, mem_names_ofNames]
  exact mem_flatMap_live_iff

/-! ## The clock beside the telemetry -/

/-- The latencies are those of the operations that are remembered, each with one entry. -/
structure Aligned {Duration : Type} (latencies : Latencies Duration) (timed : Tally) : Prop where
  nodup : latencies.names.Nodup
  mem_iff : ∀ operation, operation ∈ latencies.names ↔ operation ∈ timed.names

theorem aligned_nil {Duration : Type} : Aligned ([] : Latencies Duration) [] where
  nodup := List.nodup_nil
  mem_iff := fun _ => Iff.rfl

variable {Duration : Type} [Zero Duration] [Add Duration]

/-- An operation that is run gets its entries together, or none while the telemetry is disabled. -/
theorem aligned_time {c : Clocked Duration} (h : Aligned c.latencies c.telemetry.timed)
    (operation : Text) (elapsed : Duration) :
    Aligned (c.time operation elapsed)
      (if c.telemetry.enabled then c.telemetry.timed.bumpAll [operation]
        else c.telemetry.timed) := by
  unfold Clocked.time
  split_ifs with henabled
  · constructor
    case nodup => exact Latencies.nodup_names_add h.nodup
    case mem_iff =>
      intro other
      rw [Latencies.mem_names_add, mem_names_bumpAll, List.mem_singleton, h.mem_iff]
  · exact h

theorem aligned_runClocked {c : Clocked Duration} (h : Aligned c.latencies c.telemetry.timed)
    (elapsed : Duration) (step : Step) :
    Aligned (step.runClocked elapsed c).latencies (step.runClocked elapsed c).telemetry.timed := by
  by_cases hreset : step = .reset
  · rw [hreset]
    exact aligned_nil
  · show Aligned _ (step.run c.telemetry).2.timed
    rw [Step.run_eq hreset]
    cases step with
    | parse source => exact aligned_time h parseOperation elapsed
    | stream source => exact aligned_time h streamOperation elapsed
    | track operation fails => exact aligned_time h operation elapsed
    | record | enable => simpa [Step.runClocked, Step.timed, bumpAll] using h
    | reset => exact absurd rfl hreset

theorem aligned_afterClocked {c : Clocked Duration} (h : Aligned c.latencies c.telemetry.timed)
    (steps : List (Step × Duration)) :
    Aligned (afterClocked c steps).latencies (afterClocked c steps).telemetry.timed := by
  induction steps generalizing c with
  | nil => exact h
  | cons step rest ih => exact ih (aligned_runClocked h step.2 step.1)

/-- The clock does not change what is counted. -/
theorem telemetry_afterClocked (c : Clocked Duration) (steps : List (Step × Duration)) :
    (afterClocked c steps).telemetry = after c.telemetry (steps.map Prod.fst) := by
  induction steps generalizing c with
  | nil => rfl
  | cons step rest ih => exact ih (step.1.runClocked step.2 c)

/-! ## All states of a session -/

variable [HDiv Duration Nat Duration]

/-- What a snapshot shows of the telemetry that a session leaves: the averages are those of the
operations that were tracked, each over as many runs as its counter says. -/
structure Averaged (enabled : Bool) (steps : List Step) (c : Clocked Duration)
    (s : Snapshot Duration) : Prop where
  telemetry : c.telemetry = after (fresh enabled) steps
  counters : s.counters = c.telemetry.counters
  /-- No counter is left at zero. -/
  positive : s.counters.Positive
  tracked : ∀ operation, operation ∈ s.averages.names ↔ Tracked enabled steps operation
  /-- The operations are those that are reported, each with one average. -/
  reported : s.averages.names.Perm c.telemetry.timed.names
  /-- The counter that is divided by is there. -/
  total : ∀ operation ∈ s.averages.names,
    1 ≤ s.counters.count (counterName operation "total".toList)
  quotients : s.averages = c.latencies.map fun (operation, total) =>
    (operation, total / s.counters.count (counterName operation "total".toList))

/-- **Average latencies are always defined**, whatever is counted under whatever name, and however
often the telemetry is switched on and off and reset. A state of a session is what some of its first
steps leave, so this is said of all of them. -/
theorem averaged_afterClocked (enabled : Bool) (steps : List (Step × Duration)) :
    ∃ s, (afterClocked (.fresh enabled) steps).snapshot = .ok s ∧
      Averaged enabled (steps.map Prod.fst) (afterClocked (.fresh enabled) steps) s := by
  generalize hc : afterClocked (.fresh enabled) steps = c
  have htelemetry : c.telemetry = after (fresh enabled) (steps.map Prod.fst) := by
    rw [← hc, telemetry_afterClocked]
    rfl
  have haligned : Aligned c.latencies c.telemetry.timed := by
    rw [← hc]
    exact aligned_afterClocked aligned_nil steps
  have htotal : ∀ operation ∈ c.latencies.names,
      1 ≤ c.telemetry.counters.count (counterName operation "total".toList) := by
    intro operation hmem
    rw [haligned.mem_iff, htelemetry] at hmem
    rw [htelemetry]
    exact one_le_total hmem
  have hsorted : c.telemetry.timed.Sorted := by
    rw [htelemetry, after_fresh]
    exact sorted_ofNames _
  refine ⟨_, Clocked.snapshot_eq_ok htotal, ?_⟩
  have hnames : Latencies.names (c.latencies.map fun (operation, total) => (operation, total /
      c.telemetry.counters.count (counterName operation "total".toList))) = c.latencies.names :=
    List.map_map
  constructor
  case telemetry => exact htelemetry
  case counters => rfl
  case positive =>
    rw [htelemetry, after_fresh]
    exact positive_ofNames _
  case tracked =>
    intro operation
    rw [hnames, haligned.mem_iff, htelemetry]
    exact mem_timed_iff
  case reported =>
    rw [hnames]
    exact (List.perm_ext_iff_of_nodup haligned.nodup hsorted.nodup).mpr haligned.mem_iff
  case total =>
    rw [hnames]
    exact htotal
  case quotients => rfl

/-- A request that counts under the name of a total makes the average smaller. -/
example : (afterClocked (.fresh true) [(.record "a".toList "total".toList, 0),
    (.track "a".toList true, 6)]).snapshot =
      .ok ⟨[("a.error".toList, 1), ("a.total".toList, 2)], [("a".toList, 3)]⟩ := by
  decide +kernel

end Service

end Widgetry
