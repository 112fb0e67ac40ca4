import ZoneGuard.Json.Printer
import ZoneGuard.Text.Utf8

/-!
# Requests and responses

The messages of the service. Names of headers do not depend on case. Of the headers of a response
only `content-type`, `allow` and `access-control-allow-origin` are kept. Left out are `vary`, which
is the same in every response, what other origins may send, which only goes with an answer to
`OPTIONS`, and what describes the transfer, such as the length of the body.
-/

namespace ZoneGuard.Http

open Json (Value)

/-- What a request carries. It need not be text. -/
structure Body where
  bytes : List UInt8
deriving DecidableEq

instance : Coe String Body := ⟨fun s => ⟨Text.encode s⟩⟩

structure Request where
  method : String
  /-- The path, perhaps with a query, and perhaps after a scheme and an authority. -/
  target : String
  headers : List (String × String) := []
  body : Body := ""

def Request.header? (r : Request) (name : String) : Option String :=
  (r.headers.find? fun (other, _) => other.toList.map Char.toLower == name.toList).map (·.2)

def isSchemeChar (c : Char) : Bool := c.isAlphanum || c == '+' || c == '-' || c == '.'

/-- What follows the scheme and the authority of a target that has them. -/
def afterAuthority? (target : List Char) : Option (List Char) :=
  match target.dropWhile isSchemeChar with
  | ':' :: '/' :: '/' :: rest => some (rest.dropWhile fun c => !"/?#".toList.contains c)
  | _ => none

/-- The path without a query. Behind an authority it is a slash at least, and a target that neither
names an authority nor begins with a slash has none. -/
def Request.path (r : Request) : String :=
  let path (cs : List Char) : List Char := cs.takeWhile fun c => c != '?' && c != '#'
  match r.target.toList with
  | '/' :: cs => String.ofList (path ('/' :: cs))
  | cs =>
    match (afterAuthority? cs).map path with
    | some [] => "/"
    | some path => String.ofList path
    | none => ""

example : Request.path { method := "GET", target := "http://localhost:80?a=b" } = "/" := by
  decide +kernel

structure Response where
  status : Nat
  headers : List (String × String) := []
  body : String := ""
deriving DecidableEq, Repr

namespace Response

/-- A response with a JSON body, its members in the order of their names. -/
def json (status : Nat) (v : Value) : Response where
  status := status
  headers := [("content-type", "application/json")]
  body := v.sorted.compact

def error (status : Nat) (message kind : String) : Response :=
  json status (.object
    [("success", .bool false), ("error", .string message), ("kind", .string kind)])

def withHeader (r : Response) (name value : String) : Response :=
  { r with headers := (name, value) :: r.headers }

def bodiless (r : Response) : Response := { r with body := "" }

end Response

end ZoneGuard.Http
