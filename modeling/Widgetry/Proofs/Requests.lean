import Widgetry.Proofs.Failure
import Widgetry.Proofs.FiniteNumbers
import Widgetry.Proofs.SentTexts
import Widgetry.Proofs.Sessions

/-!
# Requests as steps of a session

A request that is accepted by one of the two services is one step of a session, and every other
request is none: the telemetry after a sequence of requests is that of the session of the accepted
ones (`after_eq_session`). What a request is answered depends on its body only through the source
text that it carries, and on the telemetry only if it asks for that (`served_of_run`).

All of this holds on any framework that does what frameworks are relied on for. Which requests are
for which route, and which bodies denote which values, is up to the framework.

A body is refused for what it says only if it denotes a value or is known to be no JSON. A decoder
may give up before that, on text in no known encoding, an integer of too many digits or too deep
nesting. And a refusal quotes from the body, so it may fail if the body holds what no response can.
-/

namespace Widgetry.Http

open Telemetry

namespace Framework

variable {Request : Type} {F : Framework Request} {r : Request} {source : Text}

/-! ## Bodies -/

theorem decode_ne_of_carries (hcarries : F.Carries r source) :
    F.decode r ≠ .error .unreadable := by
  obtain ⟨v, hv, -⟩ := hcarries
  simp [hv]

/-- How a request whose body carries no source text is refused. -/
inductive Refused (F : Framework Request) (r : Request) : Response → Prop where
  | unreadable {refusal : Response} (h : F.decode r = .error .unreadable)
      (status : refusal.status = 400) : Refused F r refusal
  | reported {refusal : Response} (h : F.decode r ≠ .error .unreadable)
      (status : refusal.status = 422) : Refused F r refusal
  | unreported {refusal : Response} (h : F.decode r ≠ .error .unreadable)
      (quote : ¬ F.Quotable r) (status : refusal.status = 500) : Refused F r refusal

section

variable (h : F.Documented)

include h

theorem sourceText_of_carries (hcarries : F.Carries r source) : F.sourceText r = .ok source := by
  obtain ⟨v, hv, hoffers⟩ := hcarries
  rw [sourceText, hv]
  dsimp only
  rw [(h.validate_iff _ _ _).mpr hoffers]

theorem refused_reject {fault : BodyFault} (hfault : F.decode r = .error fault) :
    F.Refused r (F.reject fault) := by
  cases fault with
  | missing => exact .reported (by simp [hfault]) h.status_missing
  | notJson => exact .reported (by simp [hfault]) h.status_notJson
  | unreadable => exact .unreadable hfault h.status_unreadable

theorem refused_report {v : RawJson} (hv : F.decode r = .ok v) (issues : List Issue) :
    F.Refused r ((F.report? v issues).getD F.failure) := by
  have hread : F.decode r ≠ .error .unreadable := by simp [hv]
  cases hreport : F.report? v issues with
  | some report => exact .reported hread (h.status_report v issues report hreport)
  | none =>
    refine .unreported hread (fun hquote => ?_) h.status_failure
    have hsome := h.report_of_writable v issues (hquote v hv)
    rw [hreport] at hsome
    cases hsome

/-- **All that can become of a body**: it carries a source text, or it is refused. -/
theorem sourceText_cases (r : Request) :
    (∃ source, F.Carries r source ∧ F.sourceText r = .ok source) ∨
      ((∀ source, ¬ F.Carries r source) ∧
        ∃ refusal, F.Refused r refusal ∧ F.sourceText r = .error refusal) := by
  cases hv : F.decode r with
  | error fault =>
    refine Or.inr ⟨?_, F.reject fault, refused_reject h hv, by rw [sourceText, hv]⟩
    rintro source ⟨v, hv', -⟩
    cases hv.symm.trans hv'
  | ok v =>
    cases hvalidate : F.validate Schema.sourceText v with
    | ok source =>
      have hcarries : F.Carries r source := ⟨v, hv, (h.validate_iff _ _ _).mp hvalidate⟩
      exact Or.inl ⟨source, hcarries, sourceText_of_carries h hcarries⟩
    | error issues =>
      have hrefused : F.sourceText r = .error ((F.report? v issues).getD F.failure) := by
        rw [sourceText, hv]
        dsimp only
        rw [hvalidate]
      refine Or.inr ⟨?_, _, refused_report h hv issues, hrefused⟩
      rintro source ⟨v', hv', hoffers⟩
      obtain rfl := Except.ok.inj (hv.symm.trans hv')
      cases hvalidate.symm.trans ((h.validate_iff _ _ _).mpr hoffers)

theorem sourceText_eq_ok_iff : F.sourceText r = .ok source ↔ F.Carries r source := by
  constructor
  · intro hok
    rcases sourceText_cases h r with ⟨found, hfound, hfound'⟩ | ⟨-, refusal, -, herror⟩
    · obtain rfl := Except.ok.inj (hfound'.symm.trans hok)
      exact hfound
    · cases herror.symm.trans hok
  · exact sourceText_of_carries h

end

/-! ## Accepted requests -/

/-- The request makes the step of a session: it is for one of the two services, and its body carries
the source text of the step. -/
def Makes (F : Framework Request) (r : Request) (step : Service.Step) : Prop :=
  ∃ source, F.Carries r source ∧
    ((F.route? r = some .parse ∧ step = .parse source) ∨
      (F.route? r = some .stream ∧ step = .stream source))

/-- The step that a request makes, if it is accepted. -/
def step? (F : Framework Request) (r : Request) : Option Service.Step :=
  match F.route? r, F.sourceText r with
  | some .parse, .ok source => some (.parse source)
  | some .stream, .ok source => some (.stream source)
  | _, _ => none

theorem step?_eq_some_iff (h : F.Documented) {step : Service.Step} :
    F.step? r = some step ↔ F.Makes r step := by
  simp only [Makes, ← sourceText_eq_ok_iff h]
  rw [step?]
  rcases F.route? r with _ | route
  · simp
  · cases F.sourceText r <;> cases route <;> simp [eq_comm]

/-! ## Answers -/

/-- The telemetry is reported as it is: it holds no binary64 number. -/
theorem writable_telemetryReport (t : Telemetry) :
    (telemetryReport t).writable = telemetryReport t := by
  have hcounters (counters : List (Text × Nat)) :
      Json.membersFloats (counters.map fun counter => (counter.1, .int counter.2)) = [] := by
    induction counters with
    | nil => rfl
    | cons _ rest ih => exact ih
  have htexts (ts : List Text) : Json.itemsFloats (ts.map .str) = [] := by
    induction ts with
    | nil => rfl
    | cons _ rest ih => exact ih
  apply Json.writable_eq_self
  have hfloats : (telemetryReport t).floats = [] := by
    simp [telemetryReport, Json.ofTexts, Json.floats, Json.membersFloats, hcounters, htexts]
  rw [hfloats]
  exact List.forall_mem_nil _

/-- The response to a block that may be arriving: what is known of it, unless that fails. -/
def streamResponse (F : Framework Request) (source : Text) : Response :=
  match Streaming.stream source with
  | .ok result => ⟨200, result.toJson.writable⟩
  | .error _ => F.failure

/-- The request is for one of the two services. -/
def ToService (F : Framework Request) (r : Request) : Prop :=
  F.route? r = some .parse ∨ F.route? r = some .stream

/-- A request that is for no service leaves the telemetry as it is. -/
theorem respond_snd_of_not_toService (hservice : ¬ F.ToService r) (t : Telemetry) :
    (F.respond t r).2 = t := by
  rw [respond]
  rcases hroute : F.route? r with _ | route
  · rfl
  · cases route with
    | parse => exact absurd (Or.inl hroute) hservice
    | stream => exact absurd (Or.inr hroute) hservice
    | _ => rfl

/-- A refusal is the whole answer. -/
theorem respond_of_error {refusal : Response} (hservice : F.ToService r)
    (herror : F.sourceText r = .error refusal) (t : Telemetry) :
    F.respond t r = (refusal, t) := by
  have hserve (handler : Text → Response × Telemetry) : F.serve t r handler = (refusal, t) := by
    rw [serve, herror]
  rcases hservice with hroute | hroute
  · rw [respond, hroute]
    exact hserve _
  · rw [respond, hroute]
    exact hserve _

section

variable (h : F.Documented)

include h

theorem serve_of_carries (hcarries : F.Carries r source) (t : Telemetry)
    (handler : Text → Response × Telemetry) : F.serve t r handler = handler source := by
  rw [serve, sourceText_of_carries h hcarries]

/-- **A finished block is always answered** by what has been read. -/
theorem respond_parse (hroute : F.route? r = some .parse) (hcarries : F.Carries r source)
    (t : Telemetry) :
    F.respond t r =
      (⟨200, (parseBlock source).toJson.writable⟩, ((Service.Step.parse source).run t).2) := by
  rw [respond, hroute]
  dsimp only
  rw [answer, serve_of_carries h hcarries, ← Service.parse_fst t source, ← h.content_eq]
  rfl

theorem respond_stream (hroute : F.route? r = some .stream) (hcarries : F.Carries r source)
    (t : Telemetry) :
    F.respond t r = (F.streamResponse source, ((Service.Step.stream source).run t).2) := by
  have hstate : ((Service.Step.stream source).run t).2 = (Service.stream t source).2 := rfl
  rw [respond, hroute]
  dsimp only
  rw [answer, serve_of_carries h hcarries, streamResponse, ← Service.stream_fst t source, hstate]
  rcases Service.stream t source with ⟨_ | result, t'⟩
  · rfl
  · exact congrArg (·, t') (h.content_eq _)

theorem status_streamResponse_cases (source : Text) :
    ((F.streamResponse source).status = 200 ∧ ∀ e, Streaming.stream source ≠ .error e) ∨
      ((F.streamResponse source).status = 500 ∧ ∃ e, Streaming.stream source = .error e) := by
  unfold streamResponse
  cases Streaming.stream source with
  | ok result => exact Or.inl ⟨rfl, by simp⟩
  | error e => exact Or.inr ⟨h.status_failure, e, rfl⟩

/-- **All that a request can be answered**, and what the telemetry is afterwards. -/
theorem respond_cases (t : Telemetry) (r : Request) :
    (∃ source, F.route? r = some .parse ∧ F.Carries r source ∧
        F.respond t r =
          (⟨200, (parseBlock source).toJson.writable⟩, ((Service.Step.parse source).run t).2)) ∨
      (∃ source, F.route? r = some .stream ∧ F.Carries r source ∧
        F.respond t r = (F.streamResponse source, ((Service.Step.stream source).run t).2)) ∨
      (F.ToService r ∧ (∀ source, ¬ F.Carries r source) ∧
        ∃ refusal, F.Refused r refusal ∧ F.respond t r = (refusal, t)) ∨
      (¬ F.ToService r ∧ (F.respond t r).2 = t) := by
  by_cases hservice : F.ToService r
  · rcases sourceText_cases h r with ⟨source, hcarries, -⟩ | ⟨hnone, refusal, hrefused, herror⟩
    · rcases hservice with hroute | hroute
      · exact Or.inl ⟨source, hroute, hcarries, respond_parse h hroute hcarries t⟩
      · exact Or.inr (Or.inl ⟨source, hroute, hcarries, respond_stream h hroute hcarries t⟩)
    · exact Or.inr (Or.inr (Or.inl ⟨hservice, hnone, refusal, hrefused,
        respond_of_error hservice herror t⟩))
  · exact Or.inr (Or.inr (Or.inr ⟨hservice, respond_snd_of_not_toService hservice t⟩))

/-- A body with a source text is not refused. -/
theorem status_of_carries (hservice : F.ToService r) (hcarries : F.Carries r source)
    (t : Telemetry) : (F.respond t r).1.status = 200 ∨ (F.respond t r).1.status = 500 := by
  rcases hservice with hroute | hroute
  · rw [respond_parse h hroute hcarries]
    exact Or.inl rfl
  · rw [respond_stream h hroute hcarries]
    exact (status_streamResponse_cases h source).imp And.left And.left

/-- A request fails exactly if it is for the streaming service and the stream fails. -/
theorem status_eq_failed_iff (hroute : F.route? r = some .stream) (hcarries : F.Carries r source)
    (t : Telemetry) :
    (F.respond t r).1.status = 500 ↔ ∃ e, Streaming.stream source = .error e := by
  rw [respond_stream h hroute hcarries]
  rcases status_streamResponse_cases h source with ⟨hstatus, hnone⟩ | ⟨hstatus, e, he⟩
  · rw [hstatus]
    exact ⟨fun h200 => absurd h200 (by decide), fun ⟨e, he⟩ => absurd he (hnone e)⟩
  · exact ⟨fun _ => ⟨e, he⟩, fun _ => hstatus⟩

/-- **What one request leaves.** An accepted request is one step of a session. -/
theorem respond_snd_of_makes {step : Service.Step} (hmakes : F.Makes r step) (t : Telemetry) :
    (F.respond t r).2 = (step.run t).2 := by
  obtain ⟨source, hcarries, ⟨hroute, rfl⟩ | ⟨hroute, rfl⟩⟩ := hmakes
  · rw [respond_parse h hroute hcarries]
  · rw [respond_stream h hroute hcarries]

/-- Any other request leaves the telemetry as it is. -/
theorem respond_snd_of_not_makes (hnone : ∀ step, ¬ F.Makes r step) (t : Telemetry) :
    (F.respond t r).2 = t := by
  rcases respond_cases h t r with ⟨source, hroute, hcarries, -⟩ | ⟨source, hroute, hcarries, -⟩ |
    ⟨-, -, refusal, -, hr⟩ | ⟨-, hstate⟩
  · exact absurd ⟨source, hcarries, Or.inl ⟨hroute, rfl⟩⟩ (hnone (.parse source))
  · exact absurd ⟨source, hcarries, Or.inr ⟨hroute, rfl⟩⟩ (hnone (.stream source))
  · rw [hr]
  · exact hstate

end

/-! ## Refusals -/

theorem Refused.status_eq_unreadable_iff {refusal : Response} (h : F.Refused r refusal) :
    refusal.status = 400 ↔ F.decode r = .error .unreadable := by
  cases h with
  | unreadable hdecode hstatus => simp [hdecode, hstatus]
  | reported hdecode hstatus => simp [hdecode, hstatus]
  | unreported hdecode _ hstatus => simp [hdecode, hstatus]

theorem Refused.status_eq_reported_iff {refusal : Response} (h : F.Refused r refusal)
    (hquote : F.Quotable r) : refusal.status = 422 ↔ F.decode r ≠ .error .unreadable := by
  cases h with
  | unreadable hdecode hstatus => simp [hdecode, hstatus]
  | reported hdecode hstatus => simp [hdecode, hstatus]
  | unreported _ hnot _ => exact absurd hquote hnot

theorem Refused.status_of_not_quotable {refusal : Response} (h : F.Refused r refusal)
    (hquote : ¬ F.Quotable r) : refusal.status = 422 ∨ refusal.status = 500 := by
  cases h with
  | unreadable hdecode _ =>
    refine absurd (fun v hv => ?_) hquote
    cases hdecode.symm.trans hv
  | reported _ hstatus => exact Or.inl hstatus
  | unreported _ _ hstatus => exact Or.inr hstatus

/-! ## What one request is answered -/

/-- How a request is served, with the telemetry `t` before it and `t'` after it. -/
structure Served (F : Framework Request) (t : Telemetry) (r : Request) (response : Response)
    (t' : Telemetry) : Prop where
  unreadable : F.ToService r → (response.status = 400 ↔ F.decode r = .error .unreadable)
  refused : F.ToService r → F.Quotable r →
    (response.status = 422 ↔ F.decode r ≠ .error .unreadable ∧ ∀ source, ¬ F.Carries r source)
  unquotable : F.ToService r → ¬ F.Quotable r → (∀ source, ¬ F.Carries r source) →
    response.status = 422 ∨ response.status = 500
  parsed : ∀ source, F.route? r = some .parse → F.Carries r source →
    response = ⟨200, (parseBlock source).toJson.writable⟩
  streamed : ∀ source result, F.route? r = some .stream → F.Carries r source →
    Streaming.stream source = .ok result → response = ⟨200, result.toJson.writable⟩
  failed : ∀ source, F.route? r = some .stream → F.Carries r source →
    (response.status = 500 ↔ ∃ e, Streaming.stream source = .error e)
  reported : F.route? r = some .telemetry → response = ⟨200, telemetryReport t⟩
  made : ∀ step, F.Makes r step → t' = (step.run t).2
  kept : (∀ step, ¬ F.Makes r step) → t' = t

section

variable (h : F.Documented)

include h

/-- A request to a service carries a source text or is refused. -/
theorem carries_or_refused (hservice : F.ToService r) (t : Telemetry) :
    (∃ source, F.Carries r source) ∨
      ((∀ source, ¬ F.Carries r source) ∧ F.Refused r (F.respond t r).1) := by
  rcases respond_cases h t r with ⟨source, -, hcarries, -⟩ | ⟨source, -, hcarries, -⟩ |
    ⟨-, hnone, refusal, hrefused, hr⟩ | ⟨hother, -⟩
  · exact Or.inl ⟨source, hcarries⟩
  · exact Or.inl ⟨source, hcarries⟩
  · exact Or.inr ⟨hnone, by rw [hr]; exact hrefused⟩
  · exact absurd hservice hother

/-- **Every request is served.** -/
theorem served_respond (t : Telemetry) (r : Request) :
    F.Served t r (F.respond t r).1 (F.respond t r).2 where
  unreadable hservice := by
    rcases carries_or_refused h hservice t with ⟨source, hcarries⟩ | ⟨-, hrefused⟩
    · have hread := decode_ne_of_carries hcarries
      have hstatus := status_of_carries h hservice hcarries t
      exact iff_of_false (by omega) hread
    · exact hrefused.status_eq_unreadable_iff
  refused hservice hquote := by
    rcases carries_or_refused h hservice t with ⟨source, hcarries⟩ | ⟨hnone, hrefused⟩
    · have hstatus := status_of_carries h hservice hcarries t
      exact iff_of_false (by omega) fun ⟨_, hnone⟩ => hnone source hcarries
    · rw [hrefused.status_eq_reported_iff hquote]
      exact (and_iff_left hnone).symm
  unquotable hservice hquote hnone := by
    rcases carries_or_refused h hservice t with ⟨source, hcarries⟩ | ⟨-, hrefused⟩
    · exact absurd hcarries (hnone source)
    · exact hrefused.status_of_not_quotable hquote
  parsed source hroute hcarries := by rw [respond_parse h hroute hcarries]
  streamed source result hroute hcarries hresult := by
    rw [respond_stream h hroute hcarries, streamResponse, hresult]
  failed source hroute hcarries := status_eq_failed_iff h hroute hcarries t
  reported hroute := by
    rw [respond, hroute]
    show F.content (telemetryReport t) = _
    rw [h.content_eq, writable_telemetryReport]
  made step hmakes := respond_snd_of_makes h hmakes t
  kept hnone := respond_snd_of_not_makes h hnone t

end

/-! ## A sequence of requests -/

/-- The telemetry after a sequence of requests. -/
def after (F : Framework Request) (t : Telemetry) (requests : List Request) : Telemetry :=
  requests.foldl (fun t r => (F.respond t r).2) t

/-- The response at a position is given with the telemetry after the requests in front of it. -/
theorem getElem?_run (t : Telemetry) (requests : List Request) (i : Nat) :
    (F.run t requests)[i]? =
      requests[i]?.map fun r => (F.respond (F.after t (requests.take i)) r).1 := by
  induction requests generalizing t i with
  | nil => rfl
  | cons r rest ih =>
    cases i with
    | zero => rfl
    | succ i => exact ih (F.respond t r).2 i

/-- **The requests refine a session**, which consists of the accepted ones. -/
theorem after_eq_session (h : F.Documented) (t : Telemetry) (requests : List Request) :
    F.after t requests = Service.after t (requests.filterMap F.step?) := by
  induction requests generalizing t with
  | nil => rfl
  | cons r rest ih =>
    show F.after (F.respond t r).2 rest = _
    rw [ih]
    cases hstep : F.step? r with
    | none =>
      have hkept : ∀ step, ¬ F.Makes r step := by
        intro step hmakes
        rw [(step?_eq_some_iff h).mpr hmakes] at hstep
        cases hstep
      rw [List.filterMap_cons_none hstep, respond_snd_of_not_makes h hkept]
    | some step =>
      rw [List.filterMap_cons_some hstep,
        respond_snd_of_makes h ((step?_eq_some_iff h).mp hstep)]
      rfl

/-- A quiz whose passing score has too many digits. -/
def longScore : Text := "quiz q T\npassingScore: ".toList ++ List.replicate 4301 '1'

theorem leadingWord_longScore :
    Keyword.leadingWord (Text.trim longScore) = Keyword.quiz.text := by
  decide +kernel

theorem previewQuiz_longScore :
    Streaming.previewQuiz (Text.trim longScore) = .error ⟨4301⟩ := by
  decide +kernel

theorem stream_longScore : Streaming.stream longScore = .error ⟨4301⟩ :=
  Streaming.stream_eq_error_iff.mpr ⟨leadingWord_longScore, previewQuiz_longScore⟩

/-- The request for a route with a source text. -/
def sending (route : Route) (source : Text) : Http.Request :=
  ⟨route.method.text, route.path, bodyOf source⟩

/-- The request for the telemetry. -/
def asking : Http.Request := ⟨Method.get.text, Route.telemetry.path, []⟩

/-- A request that is accepted, one that is refused, one with half a pair, which no refusal can
quote, and one that is for no route. -/
def mixed : List Http.Request :=
  [sending .parse "text-input a".toList, sending .parse [],
    ⟨Method.post.text, Route.parse.path, "\x7b\"source_text\":\"\\ud800\"\x7d".toList⟩,
    ⟨Method.get.text, Route.parse.path, []⟩]

/-- The telemetry after these and the quiz. -/
def afterMixed : Telemetry where
  enabled := true
  counters := [("widget.parse.ok".toList, 1), ("widget.parse.success".toList, 1),
    ("widget.parse.total".toList, 1), ("widget.parse_streaming.error".toList, 1),
    ("widget.parse_streaming.total".toList, 1), ("widget.type.text-input".toList, 1)]
  timed := [("widget.parse".toList, 1), ("widget.parse_streaming".toList, 1)]

theorem carries_longScore : standard.Carries (sending .stream longScore) longScore :=
  carries_bodyOf (by decide +kernel) (by decide +kernel) _ _

theorem step?_longScore : standard.step? (sending .stream longScore) = some (.stream longScore) :=
  (step?_eq_some_iff documented_standard).mpr
    ⟨longScore, carries_longScore, Or.inr ⟨route?_standard .stream _, rfl⟩⟩

/-- A stream that fails leaves its failure. -/
theorem after_append_stream {e : OversizedInteger} (he : Streaming.stream source = .error e)
    (t : Telemetry) (steps : List Service.Step) :
    Service.after t (steps ++ [.stream source]) =
      (Service.after t steps).track Service.streamOperation false := by
  rw [Service.after, List.foldl_append]
  show (Service.stream (Service.after t steps) source).2 = _
  rw [Service.stream, he]

theorem after_mixed :
    Service.after (fresh true) ((mixed ++ [sending .stream longScore]).filterMap standard.step?) =
      afterMixed := by
  have hsteps : mixed.filterMap standard.step? = [.parse "text-input a".toList] := by
    decide +kernel
  have hcounts : (Service.after (fresh true) [.parse "text-input a".toList]).track
      Service.streamOperation false = afterMixed := by
    decide +kernel
  rw [List.filterMap_append, hsteps, List.filterMap_cons_some step?_longScore, List.filterMap_nil,
    after_append_stream stream_longScore, hcounts]

/-- A slider whose bounds are infinite. -/
def endlessSlider : Text := "slider a 1e999 -1e999 0.5 1e30".toList

end Framework

end Widgetry.Http
