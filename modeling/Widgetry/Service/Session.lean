import Widgetry.Service.Telemetry
import Widgetry.Streaming.Stream

/-!
# Sessions

The two services, reading a finished block and reading one that may still be arriving, each with its
telemetry; and sessions, which are sequences of requests to the services and to the telemetry.
-/

namespace Widgetry.Service

/-! ## The services -/

def parseOperation : Text := "widget.parse".toList

def streamOperation : Text := "widget.parse_streaming".toList

/-- The operation whose outcomes are the types of the widgets. -/
def typeOperation : Text := "widget.type".toList

/-- Reads a finished block. -/
def parse (t : Telemetry) (source : Text) : ParseResult × Telemetry :=
  let result := parseBlock source
  let t := t.track parseOperation true
  match result.widget with
  | some w =>
    (result, (t.record parseOperation "success".toList).record typeOperation w.keyword.text)
  | none => (result, t.record parseOperation "failure".toList)

/-- What an answer for an arriving block counts as, if its type is known. -/
def streamOutcome (result : StreamingResult) : Text :=
  if result.complete then "complete".toList else "partial".toList

/-- Reads a block that may still be arriving. An answer that fails is counted as an error only. -/
def stream (t : Telemetry) (source : Text) :
    Except OversizedInteger StreamingResult × Telemetry :=
  match Streaming.stream source with
  | .error e => (.error e, t.track streamOperation false)
  | .ok result =>
    let t := t.track streamOperation true
    match result.detectedType with
    | none => (.ok result, t.record streamOperation "undetected".toList)
    | some name =>
      (.ok result, (t.record typeOperation name).record streamOperation (streamOutcome result))

/-! ## Sessions -/

/-- A request of a session. -/
inductive Step where
  | parse (source : Text)
  | stream (source : Text)
  | record (operation outcome : Text)
  | track (operation : Text) (fails : Bool)
  | enable (enabled : Bool)
  | reset
deriving Repr, DecidableEq

/-- The answer to a request. -/
inductive Answer where
  | parsed (result : ParseResult)
  | streamed (result : Except OversizedInteger StreamingResult)
  | done
  /-- The tracked action failed. -/
  | failed

/-- Answers a request. -/
def Step.run (t : Telemetry) : Step → Answer × Telemetry
  | parse source => ((Service.parse t source).map .parsed id)
  | stream source => ((Service.stream t source).map .streamed id)
  | record operation outcome => (.done, t.record operation outcome)
  | track operation fails =>
    (if fails then .failed else .done, t.track operation (!fails))
  | enable enabled => (.done, { t with enabled })
  | reset => (.done, t.reset)

/-- The answers to a sequence of requests, each with the telemetry after it. -/
def run (t : Telemetry) : List Step → List (Answer × Telemetry)
  | [] => []
  | step :: rest =>
    let (answer, t) := step.run t
    (answer, t) :: run t rest

end Widgetry.Service
