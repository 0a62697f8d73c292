import Widgetry.Service.Session

/-!
# Latencies

The telemetry beside a clock. The time that each run of an operation takes is added up under the
name of the operation, and a snapshot divides what has been added up by the counter of the runs.
Durations are of any type with a sum and with quotients by natural numbers.

The durations have a list of their own: the counters know nothing of them, and are kept under other
names.
-/

namespace Widgetry

/-! ## Durations of operations -/

/-- Operations with the time that their runs have taken together, in the order in which they were
first timed. -/
abbrev Latencies (Duration : Type) : Type := List (Text × Duration)

namespace Latencies

variable {Duration : Type}

/-- The operations that were timed. -/
def names (latencies : Latencies Duration) : List Text := latencies.map Prod.fst

/-- The latencies with one more run of the operation. -/
def add [Zero Duration] [Add Duration] (operation : Text) (elapsed : Duration) :
    Latencies Duration → Latencies Duration
  | [] => [(operation, 0 + elapsed)]
  | (other, total) :: rest =>
    if operation = other then (other, total + elapsed) :: rest
    else (other, total) :: add operation elapsed rest

end Latencies

/-! ## Snapshots -/

/-- An average over no runs. -/
structure DivisionByZero where
deriving Repr, DecidableEq

/-- The average of a number of durations, by their total. -/
def average {Duration : Type} [HDiv Duration Nat Duration] (total : Duration) (runs : Nat) :
    Except DivisionByZero Duration :=
  if runs = 0 then .error ⟨⟩ else .ok (total / runs)

/-- What is shown of the telemetry. -/
structure Snapshot (Duration : Type) where
  counters : Tally
  averages : Latencies Duration
deriving Repr, DecidableEq

/-- What has been counted, and how long it took. -/
structure Clocked (Duration : Type) where
  telemetry : Telemetry
  latencies : Latencies Duration
deriving Repr, DecidableEq

namespace Clocked

variable {Duration : Type}

/-- Nothing has been counted or timed. -/
def fresh (enabled : Bool) : Clocked Duration := ⟨.fresh enabled, []⟩

/-- The latencies after a run of the operation. They stay as they are while the telemetry is
disabled. -/
def time [Zero Duration] [Add Duration] (operation : Text) (elapsed : Duration)
    (c : Clocked Duration) : Latencies Duration :=
  if c.telemetry.enabled then c.latencies.add operation elapsed else c.latencies

/-- How many runs the total of an operation is divided by: as many as were counted, and one if there
is no such counter. -/
def runs (c : Clocked Duration) (operation : Text) : Nat :=
  (c.telemetry.counters.lookup (Telemetry.counterName operation "total".toList)).getD 1

/-- The counters, and the average latency of each operation that was timed. -/
def snapshot [HDiv Duration Nat Duration] (c : Clocked Duration) :
    Except DivisionByZero (Snapshot Duration) := do
  let averages ← c.latencies.mapM fun (operation, total) =>
    (average total (c.runs operation)).map fun mean => (operation, mean)
  return ⟨c.telemetry.counters, averages⟩

end Clocked

/-! ## Sessions -/

namespace Service

variable {Duration : Type} [Zero Duration] [Add Duration]

/-- What a step leaves that takes some time. The time matters for the steps that run an
operation. -/
def Step.runClocked (elapsed : Duration) (c : Clocked Duration) (step : Step) :
    Clocked Duration where
  telemetry := (step.run c.telemetry).2
  latencies :=
    match step with
    | parse _ => c.time parseOperation elapsed
    | stream _ => c.time streamOperation elapsed
    | track operation _ => c.time operation elapsed
    | record _ _ | enable _ => c.latencies
    | reset => []

/-- What a sequence of steps leaves, each with the time that it takes. -/
def afterClocked (c : Clocked Duration) (steps : List (Step × Duration)) : Clocked Duration :=
  steps.foldl (fun c (step, elapsed) => step.runClocked elapsed c) c

end Service

end Widgetry
