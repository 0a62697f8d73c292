import Widgetry.Text.Basic

/-!
# Telemetry

Counts what the service does. Every name has a counter, and every operation that was timed is
remembered. Both are tallies: lists of names and counts in ascending order of the names, so that a
tally is determined by its counts, whatever the order in which they were made.
-/

namespace Widgetry

/-! ## Tallies -/

/-- Names with their counts, in ascending order of the names. -/
abbrev Tally : Type := List (Text × Nat)

namespace Tally

/-- The tally with one more count under the name. -/
def bump (name : Text) : Tally → Tally
  | [] => [(name, 1)]
  | (other, n) :: rest =>
    if name = other then (other, n + 1) :: rest
    else if name < other then (name, 1) :: (other, n) :: rest
    else (other, n) :: bump name rest

/-- The count under a name; zero if there is none. -/
def count (tally : Tally) (name : Text) : Nat := (tally.lookup name).getD 0

/-- The names that were counted. -/
def names (tally : Tally) : List Text := tally.map Prod.fst

end Tally

/-! ## The record -/

/-- The counters, and how often each operation was timed. Nothing changes while it is disabled. -/
structure Telemetry where
  enabled : Bool
  counters : Tally
  timed : Tally
deriving Repr, DecidableEq

namespace Telemetry

/-- Nothing has been counted. -/
def fresh (enabled : Bool) : Telemetry := ⟨enabled, [], []⟩

/-- The name of the counter for one outcome of an operation. -/
def counterName (operation outcome : Text) : Text := operation ++ '.' :: outcome

/-- Counts an outcome of an operation. -/
def record (operation outcome : Text) (t : Telemetry) : Telemetry :=
  if t.enabled then { t with counters := t.counters.bump (counterName operation outcome) } else t

/-- Counts a run of an operation that succeeded or failed, and remembers that it was timed. -/
def track (operation : Text) (succeeded : Bool) (t : Telemetry) : Telemetry :=
  if t.enabled then
    let outcome := if succeeded then "ok".toList else "error".toList
    { t with
      counters := (t.counters.bump (counterName operation "total".toList)).bump
        (counterName operation outcome)
      timed := t.timed.bump operation }
  else t

/-- Forgets all counts. -/
def reset (t : Telemetry) : Telemetry := fresh t.enabled

end Telemetry

end Widgetry
