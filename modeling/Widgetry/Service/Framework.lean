import Widgetry.Service.Session
import Widgetry.Widget.Descriptor
import Widgetry.Widget.Schema

/-!
# The HTTP surface

Five routes: the health check, the list of keywords, the telemetry, and the two services. A request
to a service carries a JSON object with the source text.

How a request reaches a route, how its body is decoded and checked, and how an answer is written is
left to a web framework. The framework is a parameter: a record of what it does with requests of
whatever type (`Framework`). The routes are answered on top of it. A handler is called only with a
source text that the framework has accepted, so a request that is refused cannot change the
telemetry.
-/

namespace Widgetry.Http

/-! ## Routes -/

inductive Method where
  | get
  | post
deriving Repr, DecidableEq

def Method.text : Method → Text
  | .get => "GET".toList
  | .post => "POST".toList

inductive Route where
  | health
  | types
  | telemetry
  | parse
  | stream
deriving Repr, DecidableEq

namespace Route

def all : List Route := [health, types, telemetry, parse, stream]

def path : Route → Text
  | health => "/health".toList
  | types => "/widgets/types".toList
  | telemetry => "/telemetry".toList
  | parse => "/widgets/parse".toList
  | stream => "/widgets/parse-streaming".toList

/-- The one method that a route answers. -/
def method : Route → Method
  | health | types | telemetry => .get
  | parse | stream => .post

end Route

/-! ## Frameworks -/

structure Response where
  status : Nat
  body : Json
deriving Repr

/-- Why a body denotes no value. -/
inductive BodyFault where
  /-- There is no body. -/
  | missing
  | notJson
  /-- The decoder gives up on the body, and it is not known whether it is JSON. -/
  | unreadable
deriving Repr, DecidableEq

/-- What a web framework does with requests, as far as a route can tell. -/
structure Framework (Request : Type) where
  /-- The route that a request is for. -/
  route? : Request → Option Route
  /-- Answers a request that is for no route. -/
  unrouted : Request → Response
  /-- The value that the body of a request denotes. -/
  decode : Request → Except BodyFault RawJson
  /-- Answers a request whose body denotes no value. -/
  reject : BodyFault → Response
  /-- The text that a field has in a value, or what is wrong with the value. -/
  validate : Schema.TextField → RawJson → Except (List Issue) Text
  /-- The report on what is wrong with a value, if it can be written. -/
  report? : RawJson → List Issue → Option Response
  /-- Writes what a handler gives. -/
  content : Json → Response
  /-- Answers a request if something has failed while it was handled. -/
  failure : Response

/-- The counters, and the names of the timed operations. -/
def telemetryReport (t : Telemetry) : Json :=
  .obj [("counters".toList, .obj (t.counters.map fun counter => (counter.1, .int counter.2))),
    ("latency_ops".toList, .ofTexts t.timed.names)]

namespace Framework

variable {Request : Type} (F : Framework Request)

/-! ## Answers -/

/-- The source text that a request to a service carries, or the response that refuses it. -/
def sourceText (r : Request) : Except Response Text :=
  match F.decode r with
  | .ok v =>
    match F.validate Schema.sourceText v with
    | .ok source => .ok source
    | .error issues => .error ((F.report? v issues).getD F.failure)
  | .error fault => .error (F.reject fault)

/-- Answers a request to a service by what `handler` makes of the source text. -/
def serve (t : Telemetry) (r : Request) (handler : Text → Response × Telemetry) :
    Response × Telemetry :=
  match F.sourceText r with
  | .ok source => handler source
  | .error refusal => (refusal, t)

/-- Answers a request for a route. -/
def answer (t : Telemetry) (r : Request) : Route → Response × Telemetry
  | .health => (F.content (.obj [("status".toList, .str "ok".toList)]), t)
  | .types => (F.content (.ofTexts (Keyword.all.map Keyword.text)), t)
  | .telemetry => (F.content (telemetryReport t), t)
  | .parse => F.serve t r fun source =>
      let (result, t) := Service.parse t source
      (F.content result.toJson, t)
  | .stream => F.serve t r fun source =>
      match Service.stream t source with
      | (.ok result, t) => (F.content result.toJson, t)
      | (.error _, t) => (F.failure, t)

/-- Answers a request. -/
def respond (t : Telemetry) (r : Request) : Response × Telemetry :=
  match F.route? r with
  | some route => F.answer t r route
  | none => (F.unrouted r, t)

/-- The responses to a sequence of requests. -/
def run (t : Telemetry) : List Request → List Response
  | [] => []
  | r :: rest =>
    let (response, t) := F.respond t r
    response :: run t rest

end Framework

end Widgetry.Http
