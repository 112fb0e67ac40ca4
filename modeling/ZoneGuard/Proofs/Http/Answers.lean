import Mathlib
import ZoneGuard.Http.Service
import ZoneGuard.Proofs.Json.Bytes
import ZoneGuard.Proofs.Json.Grammar

/-!
# Answers in JSON

A service answers in JSON: what it has, and what it refuses to do.  Only a method that an endpoint
does not offer gets an answer that is no JSON.  Where all headers of an answer are told, these are
the ones that are kept of a response: its media type, the methods allowed and the origins.
-/

namespace ZoneGuard

open Json (Value OnlyIntegers)

/-! ## The numbers of a report -/

theorem Finding.onlyIntegers_toJson (f : Finding) : OnlyIntegers f.toJson := by
  obtain ⟨subject, data?, remediation⟩ := f
  refine .object ?_
  cases subject <;> cases data? <;> simp [Subject.toMember, OnlyIntegers.string]

theorem Group.onlyIntegers_toJson (g : Group) : OnlyIntegers g.toJson := by
  refine .object ?_
  simp only [List.forall_mem_cons, List.not_mem_nil, false_imp_iff, implies_true, and_true]
  exact ⟨g.primary.onlyIntegers_toJson, .array (List.forall_mem_map.2 fun i _ => .integer i),
    .array (List.forall_mem_map.2 fun id _ => .string id)⟩

theorem Warning.onlyIntegers_toJson (w : Warning) : OnlyIntegers w.toJson := by
  cases w <;> exact .object (by simp [OnlyIntegers.string])

theorem RuleTable.onlyIntegers_toJson {α : Type} (t : RuleTable (List α)) {item : α → Value}
    (hitem : ∀ a, OnlyIntegers (item a)) : OnlyIntegers (t.toJson item) :=
  .object (List.forall_mem_map.2 fun _ _ =>
    .array (List.forall_mem_map.2 fun a _ => hitem a))

theorem Report.onlyIntegers_toJson (r : Report) : OnlyIntegers r.toJson := by
  refine .object ?_
  have hthreats := r.findings.onlyIntegers_toJson Finding.onlyIntegers_toJson
  have hmerged := r.groups.onlyIntegers_toJson Group.onlyIntegers_toJson
  have hwarnings : OnlyIntegers (.array (r.warnings.map Warning.toJson)) :=
    .array (List.forall_mem_map.2 fun w _ => w.onlyIntegers_toJson)
  cases r.degradedReason? <;>
    simp [hthreats, hmerged, hwarnings, Value.ofNat, OnlyIntegers.integer, OnlyIntegers.string]

namespace Http

/-! ## JSON answers -/

def Response.values (a : Response) (name : String) : List String :=
  (a.headers.filter (·.1 == name)).map (·.2)

/-- The answer to the request is the object with the given members in JSON.  A request for the head
gets no body. -/
structure Response.IsObject (a : Response) (r : Request) (members : List (String × Value)) :
    Prop where
  mediaType : a.values "content-type" = ["application/json"]
  body : if r.method = "HEAD" then a.body = "" else Json.Denotes a.body.toList (.object members)

/-- The answer to the request says that it was not done, why, and what kind of error that is. -/
def Response.IsEnvelope (a : Response) (r : Request) (message kind : String) : Prop :=
  a.IsObject r [("error", .string message), ("kind", .string kind), ("success", .bool false)]

/-- The request asks an endpoint for a method that it does not offer. -/
def Request.AsksUnoffered (r : Request) : Prop :=
  ∃ e, Endpoint.ofPath? r.path = some e ∧ r.method ∉ e.methods

/-- The service answers the request in JSON, and with an envelope where it does not do what is
asked. -/
structure Service.AnswersInJson (s : Service) (r : Request) : Prop where
  isObject : ∃ members, (s.answer r).IsObject r members
  unknownPath : Endpoint.ofPath? r.path = none →
    (s.answer r).status = 404 ∧ (s.answer r).IsEnvelope r "not found" "not_found"
  unofferedMethod : r.AsksUnoffered → ∃ message kind, (s.answer r).IsEnvelope r message kind
  unacceptableBody : Endpoint.ofPath? r.path = some .analyze → r.method = "POST" →
    ∀ e, r.json s.maxBodyBytes = .error e →
      (s.answer r).status = 400 ∧ (s.answer r).IsEnvelope r e.message "bad_request"
  failedAnalysis : Endpoint.ofPath? r.path = some .analyze → r.method = "POST" →
    ∀ payload e, r.json s.maxBodyBytes = .ok payload →
      ZoneGuard.analyze payload s.engine = .error e →
        (s.answer r).status = failureStatus e ∧ (s.answer r).IsEnvelope r e.message e.kind

/-- An answer as it is sent. -/
def Response.sent (a : Response) (r : Request) : Response :=
  (if r.method = "HEAD" then a.bodiless else a).withHeader "access-control-allow-origin" "*"

@[simp]
theorem Response.status_sent (a : Response) (r : Request) : (a.sent r).status = a.status := by
  rw [sent]
  split <;> rfl

theorem Service.answer_of_unknownPath {s : Service} {r : Request} (hmethod : r.method ≠ "OPTIONS")
    (hpath : Endpoint.ofPath? r.path = none) :
    s.answer r = (Response.error 404 "not found" "not_found").sent r := by
  rw [answer, if_neg hmethod, hpath]
  rfl

theorem Service.answer_of_ofPath? {s : Service} {r : Request} (hmethod : r.method ≠ "OPTIONS")
    {e : Endpoint} (hpath : Endpoint.ofPath? r.path = some e) :
    s.answer r = (s.answerAt e r).sent r := by
  rw [answer, if_neg hmethod, hpath]
  rfl

theorem isObject_json (status : Nat) {v : Value} (hv : OnlyIntegers v) (r : Request)
    {members : List (String × Value)} (hmembers : v.sorted = .object members) :
    ((Response.json status v).sent r).IsObject r members := by
  rw [Response.sent]
  split_ifs with hhead
  · exact ⟨rfl, by rw [if_pos hhead]; rfl⟩
  · refine ⟨rfl, ?_⟩
    rw [if_neg hhead, ← hmembers]
    exact hv.sorted.denotes_compact

theorem isEnvelope_error (status : Nat) (message kind : String) (r : Request) :
    ((Response.error status message kind).sent r).IsEnvelope r message kind :=
  isObject_json status (.object (by simp [OnlyIntegers.string, OnlyIntegers.bool])) r rfl

/-- A body that is accepted is a text. -/
theorem Request.exists_text_of_json_eq_ok {r : Request} {maxBodyBytes : Nat} {payload : Value}
    (h : r.json maxBodyBytes = .ok payload) :
    ∃ text, Text.decode? r.body.bytes = some text ∧ Json.parse text = .ok payload := by
  unfold json at h
  split_ifs at h
  split at h
  · cases h
  · next hparse =>
    cases h
    exact Json.exists_text_of_parseBytes_eq_ok hparse

/-! ## The answers of the endpoints -/

namespace Service

variable {s : Service} {r : Request}

theorem analyze_of_json_eq_error {e : BodyError} (hbody : r.json s.maxBodyBytes = .error e) :
    s.analyze r = .error 400 e.message "bad_request" := by
  rw [analyze, hbody]

theorem analyze_of_analyze_eq_error {payload : Value} {e : AnalysisError}
    (hbody : r.json s.maxBodyBytes = .ok payload)
    (hfailed : ZoneGuard.analyze payload s.engine = .error e) :
    s.analyze r = .error (failureStatus e) e.message e.kind := by
  simp only [analyze, hbody, hfailed]

/-- An analysis is answered with an object, whether it succeeds or not. -/
theorem isObject_analyze (s : Service) (r : Request) :
    ∃ members, ((s.analyze r).sent r).IsObject r members := by
  cases hbody : r.json s.maxBodyBytes with
  | error e =>
    rw [analyze_of_json_eq_error hbody]
    exact ⟨_, isEnvelope_error ..⟩
  | ok payload =>
    cases hreport : ZoneGuard.analyze payload s.engine with
    | error e =>
      rw [analyze_of_analyze_eq_error hbody hreport]
      exact ⟨_, isEnvelope_error ..⟩
    | ok report =>
      simp only [analyze, hbody, hreport]
      refine ⟨_, isObject_json 200 (.object ?_) r rfl⟩
      simp [OnlyIntegers.bool, report.onlyIntegers_toJson]

theorem isObject_health (s : Service) (r : Request) :
    ∃ members, (s.health.sent r).IsObject r members :=
  ⟨_, isObject_json 200 (.object (by simp [OnlyIntegers.string])) r rfl⟩

theorem answerAt_of_mem {e : Endpoint} (hoffered : r.method ∈ e.methods) :
    s.answerAt e r = match e with
      | .health => s.health
      | .analyze => s.analyze r := by
  rw [answerAt.eq_def, if_neg (by simpa using hoffered)]
  cases e <;> rfl

theorem answerAt_of_notMem {e : Endpoint} (hunoffered : r.method ∉ e.methods) :
    s.answerAt e r = { status := 405, headers := [("allow", e.allowed)] } := by
  rw [answerAt.eq_def, if_pos (by simpa using hunoffered)]

/-- To a method that it does not offer, an endpoint answers with the methods that it offers, and
with no word of JSON. -/
theorem answer_of_unofferedMethod (hmethod : r.method ≠ "OPTIONS") {e : Endpoint}
    (hpath : Endpoint.ofPath? r.path = some e) (hunoffered : r.method ∉ e.methods) :
    s.answer r =
      { status := 405
        headers := [("access-control-allow-origin", "*"), ("allow", e.allowed)] } := by
  rw [answer_of_ofPath? hmethod hpath, answerAt_of_notMem hunoffered, Response.sent]
  split <;> rfl

/-- An answer without a media type is no object in JSON. -/
theorem not_isObject_of_asksUnoffered (hmethod : r.method ≠ "OPTIONS") (h : r.AsksUnoffered)
    (members : List (String × Value)) : ¬ (s.answer r).IsObject r members := by
  obtain ⟨e, hpath, hunoffered⟩ := h
  intro hobject
  have hmedia := hobject.mediaType
  rw [answer_of_unofferedMethod hmethod hpath hunoffered] at hmedia
  cases hmedia

/-- A request for what is offered, or for an unknown path, is answered in JSON. -/
theorem answersInJson_of_not_asksUnoffered (hmethod : r.method ≠ "OPTIONS")
    (h : ¬ r.AsksUnoffered) : s.AnswersInJson r := by
  have hoffered : ∀ {e}, Endpoint.ofPath? r.path = some e → r.method ∈ e.methods := by
    intro e hpath
    by_contra hunoffered
    exact h ⟨e, hpath, hunoffered⟩
  have hanalyze : Endpoint.ofPath? r.path = some .analyze →
      s.answer r = (s.analyze r).sent r := by
    intro hpath
    rw [answer_of_ofPath? hmethod hpath, answerAt_of_mem (hoffered hpath)]
  have hunknown : Endpoint.ofPath? r.path = none →
      s.answer r = (Response.error 404 "not found" "not_found").sent r :=
    answer_of_unknownPath hmethod
  constructor
  case isObject =>
    cases hpath : Endpoint.ofPath? r.path with
    | none => exact hunknown hpath ▸ ⟨_, isEnvelope_error ..⟩
    | some e =>
      cases e with
      | health =>
        rw [answer_of_ofPath? hmethod hpath, answerAt_of_mem (hoffered hpath)]
        exact s.isObject_health r
      | analyze => exact hanalyze hpath ▸ s.isObject_analyze r
  case unknownPath =>
    intro hpath
    rw [hunknown hpath]
    exact ⟨Response.status_sent .., isEnvelope_error ..⟩
  case unofferedMethod => exact fun hunoffered => absurd hunoffered h
  case unacceptableBody =>
    intro hpath _ e hbody
    rw [hanalyze hpath, analyze_of_json_eq_error hbody]
    exact ⟨Response.status_sent .., isEnvelope_error ..⟩
  case failedAnalysis =>
    intro hpath _ payload e hbody hfailed
    rw [hanalyze hpath, analyze_of_analyze_eq_error hbody hfailed]
    exact ⟨Response.status_sent .., isEnvelope_error ..⟩

/-- Every answer is in JSON, but those to a method that the path does not offer: these have no media
type and no body, and of the headers that are kept only the methods that it does offer and the
origins. -/
theorem answersInJson_iff (s : Service) {r : Request} (hmethod : r.method ≠ "OPTIONS") :
    (s.AnswersInJson r ↔ ¬ r.AsksUnoffered) ∧
      ∀ e, Endpoint.ofPath? r.path = some e → r.method ∉ e.methods →
        s.answer r =
          { status := 405
            headers := [("access-control-allow-origin", "*"), ("allow", e.allowed)] } := by
  refine ⟨⟨fun hjson hunoffered => ?_, answersInJson_of_not_asksUnoffered hmethod⟩,
    fun e => answer_of_unofferedMethod hmethod⟩
  obtain ⟨members, hobject⟩ := hjson.isObject
  exact not_isObject_of_asksUnoffered hmethod hunoffered members hobject

/-- A request for an analysis that does not say that it brings JSON is refused in JSON. -/
theorem answersInJson_iff_untypedBody :
    let s : Service := ⟨"engine", fun _ => .error (.timeout 60), 1048576⟩
    let r : Request := { method := "POST", target := "/analyze?trace", body := "\x7b\x7d" }
    r.method ≠ "OPTIONS" ∧ ¬ r.AsksUnoffered ∧ s.AnswersInJson r ∧
      (s.answer r).IsEnvelope r BodyError.notJson.message "bad_request" := by
  intro s r
  have hmethod : r.method ≠ "OPTIONS" := by decide
  have hpath : Endpoint.ofPath? r.path = some .analyze := by decide +kernel
  have hoffered : ¬ r.AsksUnoffered := by
    rintro ⟨e, he, hunoffered⟩
    obtain rfl := Option.some.inj (hpath.symm.trans he)
    exact hunoffered (by decide)
  have hjson := (answersInJson_iff s hmethod).1.2 hoffered
  exact ⟨hmethod, hoffered, hjson, (hjson.unacceptableBody hpath rfl .notJson rfl).2⟩

/-- Health is not to be posted to, which is not said in JSON. -/
theorem not_isObject_postedHealth :
    let s : Service := ⟨"engine", fun _ => .ok "", 1048576⟩
    let r : Request := { method := "POST", target := "/health" }
    r.method ≠ "OPTIONS" ∧ (s.answer r).status = 405 ∧
      ¬ ∃ members, (s.answer r).IsObject r members := by
  intro s r
  have hmethod : r.method ≠ "OPTIONS" := by decide
  have hpath : Endpoint.ofPath? r.path = some .health := by decide +kernel
  have hunoffered : r.method ∉ Endpoint.health.methods := by decide
  refine ⟨hmethod, by rw [answer_of_unofferedMethod hmethod hpath hunoffered], ?_⟩
  rintro ⟨members, hobject⟩
  exact not_isObject_of_asksUnoffered hmethod ⟨_, hpath, hunoffered⟩ members hobject

end Service

end Http

end ZoneGuard
