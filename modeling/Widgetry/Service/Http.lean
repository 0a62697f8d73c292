import Widgetry.Json.Reader
import Widgetry.Service.Framework
import Widgetry.Text.Encoding

/-!
# A web framework

The framework that the routes run on. A path must be that of a route, with its method. A body is
decoded from its bytes, whose encoding is told from the first of them, and checked for the source
text. What is wrong with a body is reported with the part of it that is wrong, so the report cannot
be written if that part cannot be.
-/

namespace Widgetry.Http

/-! ## Routing -/

/-- The route of a path. One line feed at the end does not matter. -/
def Route.ofPath? (path : Text) : Option Route :=
  all.find? fun route => path == route.path || path == route.path ++ ['\n']

/-- Is a path that of a route but for slashes at its end? -/
def Route.isSlashed (path : Text) : Bool :=
  path.getLast? == some '/' && (ofPath? (path.reverse.dropWhile (· == '/')).reverse).isSome

/-- A request; its body is said to be JSON, and arrives in UTF-8. -/
structure Request where
  method : Text
  path : Text
  body : Text
deriving Repr, DecidableEq

namespace Request

def route? (r : Request) : Option Route :=
  (Route.ofPath? r.path).filter fun route => r.method = route.method.text

/-- A body that only says what is wrong. -/
def detail (reason : String) : Json := .obj [("detail".toList, .str reason.toList)]

/-- The path may be unknown but for slashes at its end, unknown altogether, or that of a route for
another method. -/
def unrouted (r : Request) : Response :=
  if (Route.ofPath? r.path).isSome then ⟨405, detail "Method Not Allowed"⟩
  else if Route.isSlashed r.path then ⟨307, .null⟩
  else ⟨404, detail "Not Found"⟩

/-- The value that the body denotes. Null characters in the body can make it be taken for another
encoding, in which it may encode nothing. -/
def decode (r : Request) : Except BodyFault RawJson :=
  if r.body = [] then .error .missing
  else
    let bytes := Text.toUtf8 r.body
    match ((Text.Encoding.detect bytes).decode? bytes).map Json.readRaw with
    | some (.ok v) => .ok v
    | some (.error .malformed) => .error .notJson
    | _ => .error .unreadable

end Request

/-! ## Validation -/

/-- The text that a field has in a value, or what is wrong with the value. -/
def validate (f : Schema.TextField) (v : RawJson) : Except (List Issue) Text :=
  match f.ofRaw v with
  | .valid t _ => .ok t
  | .invalid issues => .error issues

/-! ## Refusals -/

/-- The report on issues of the body. -/
def unprocessable (issues : List Issue) : Response :=
  ⟨422, .arr (issues.map fun i => Issue.toJson ⟨i.kind, .key "body".toList :: i.path⟩)⟩

/-- Answers a request whose body denotes no value. -/
def reject : BodyFault → Response
  | .missing => unprocessable [⟨.missing, []⟩]
  | .notJson => unprocessable [⟨.malformedJson, []⟩]
  | .unreadable => ⟨400, Request.detail "There was an error parsing the body"⟩

/-- The part of a value that is wrong if a field is: the member of the field, or else the whole. -/
def culprit (f : Schema.TextField) : RawJson → RawJson
  | .obj members => (members.lookup (Text.codePoints f.key)).getD (.obj members)
  | v => v

/-- The report on a value without a source text. -/
def report? (v : RawJson) (issues : List Issue) : Option Response :=
  if (culprit Schema.sourceText v).isWritable then some (unprocessable issues) else none

/-! ## Answers -/

/-- The framework that runs. -/
def standard : Framework Request where
  route? := Request.route?
  unrouted := Request.unrouted
  decode := Request.decode
  reject := reject
  validate := validate
  report? := report?
  content v := ⟨200, v.writable⟩
  failure := ⟨500, .null⟩

/-- The responses to a sequence of requests. -/
def run (t : Telemetry) (requests : List Request) : List Response := standard.run t requests

end Widgetry.Http
