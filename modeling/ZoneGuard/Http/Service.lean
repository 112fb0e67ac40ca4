import ZoneGuard.Analysis
import ZoneGuard.Http.MediaType
import ZoneGuard.Http.Message
import ZoneGuard.Json.Bytes

/-!
# The service

Answers requests for its health and for analyses. Whoever asks may use the answer, from every
origin. A method that a path does not offer gets an answer without a body. Answers have the headers
that are kept of a response, and no others.
-/

namespace ZoneGuard

def version : String := "0.1.0"

namespace Http

open Json (Value)

/-- A service around an engine. -/
structure Service where
  engineName : String
  engine : Specification → Except EngineError String
  /-- The size up to which a body is accepted. -/
  maxBodyBytes : Nat

/-- What the service offers. -/
inductive Endpoint where
  | health
  | analyze
deriving DecidableEq, Repr

namespace Endpoint

def ofPath? (path : String) : Option Endpoint :=
  if path = "/health" then some .health else if path = "/analyze" then some .analyze else none

def methods : Endpoint → List String
  | .health => ["GET", "HEAD"]
  | .analyze => ["POST"]

/-- The methods in the form of a header. -/
def allowed (e : Endpoint) : String := ",".intercalate e.methods

end Endpoint

/-- Why the body of a request is not accepted. -/
inductive BodyError where
  | notJson
  | tooLong
  | malformed (e : Json.ReadError)

def BodyError.message : BodyError → String
  | .notJson => "Expected request with \x60Content-Type: application/json\x60"
  | .tooLong => "Failed to buffer the request body: length limit exceeded"
  | .malformed e => "Failed to parse the request body as JSON: " ++ e.messageWithPath

def Request.json (r : Request) (maxBodyBytes : Nat) : Except BodyError Value :=
  if !((r.header? "content-type").bind MediaType.ofText?).any MediaType.isJson then .error .notJson
  else if maxBodyBytes < r.body.bytes.length then .error .tooLong
  else
    match Json.parseBytes r.body.bytes with
    | .error e => .error (.malformed e)
    | .ok v => .ok v

def failureStatus : AnalysisError → Nat
  | .graph _ | .compile _ => 422
  | .engine _ => 502

namespace Service

def health (s : Service) : Response :=
  .json 200 (.object
    [("status", .string "ok"), ("version", .string version), ("engine", .string s.engineName)])

/-- The answer to the graph in a request's body. -/
def analyze (s : Service) (r : Request) : Response :=
  match r.json s.maxBodyBytes with
  | .error e => .error 400 e.message "bad_request"
  | .ok payload =>
    match ZoneGuard.analyze payload s.engine with
    | .error e => .error (failureStatus e) e.message e.kind
    | .ok report => .json 200 (.object [("success", .bool true), ("result", report.toJson)])

def answerAt (s : Service) (e : Endpoint) (r : Request) : Response :=
  if !e.methods.contains r.method then { status := 405, headers := [("allow", e.allowed)] }
  else
    match e with
    | .health => s.health
    | .analyze => s.analyze r

/-- The answer to a question for what is allowed. -/
def options (path : String) : Response :=
  match Endpoint.ofPath? path with
  | some e => { status := 200, headers := [("allow", e.allowed)] }
  | none => { status := 200 }

def answer (s : Service) (r : Request) : Response :=
  let response :=
    if r.method = "OPTIONS" then options r.path
    else
      match Endpoint.ofPath? r.path with
      | some e => s.answerAt e r
      | none => .error 404 "not found" "not_found"
  let response := if r.method = "HEAD" then response.bodiless else response
  response.withHeader "access-control-allow-origin" "*"

end Service

end Http

end ZoneGuard
