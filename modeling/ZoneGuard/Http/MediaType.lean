/-!
# Media types

The type of a message's body as its header states it: a type and a subtype, which may have a suffix,
and parameters. Names do not depend on case.
-/

namespace ZoneGuard.Http

/-- A media type without its parameters. -/
structure MediaType where
  type : String
  subtype : String
  suffix? : Option String := none
deriving DecidableEq, Repr

/-- Whether the character may stand in a name. -/
def isTokenChar (c : Char) : Bool := c.isAlphanum || "!#$%&'*+-.^_\x60|~".toList.contains c

/-- Whether the character may stand between quotes. -/
def isQuotedChar (c : Char) : Bool := 31 < c.toNat && c.toNat != 127

/-- What follows a quoted value up to the next parameter, from behind the closing quote. -/
def afterQuoted : List Char → Option (List Char)
  | [] => some []
  | ';' :: cs => some cs
  | ' ' :: cs => afterQuoted cs
  | _ => none

/-- What follows the value of a parameter. The first character between quotes may be a quote. -/
def afterValue (cs : List Char) : Option (List Char) :=
  match cs with
  | '"' :: [] => none
  | '"' :: c :: cs =>
    if !isQuotedChar c then none
    else
      match cs.dropWhile fun c => isQuotedChar c && c != '"' with
      | '"' :: rest => afterQuoted rest
      | _ => none
  | _ =>
    let value := cs.takeWhile isTokenChar
    match cs.drop value.length with
    | [] => some []
    | ';' :: rest => if value.isEmpty then none else some rest
    | _ => none

/-- Whether the characters are parameters. Each step passes one of them or a space. -/
def areParameters : Nat → List Char → Bool
  | 0, cs => cs.isEmpty
  | _ + 1, [] => true
  | steps + 1, ' ' :: cs => areParameters steps cs
  | steps + 1, cs =>
    let name := cs.takeWhile isTokenChar
    match cs.drop name.length with
    | '=' :: rest =>
      !name.isEmpty && (match afterValue rest with
        | some rest => areParameters steps rest
        | none => false)
    | _ => false

/-- The subtype with its suffix, which stands behind the last plus sign that is not the first
character. -/
def MediaType.ofNames (type subtype : List Char) : MediaType :=
  let suffix := (subtype.reverse.takeWhile (· != '+')).reverse
  let name := subtype.take (subtype.length - suffix.length - 1)
  let lower (cs : List Char) : String := String.ofList (cs.map Char.toLower)
  if suffix.length = subtype.length || name.isEmpty then ⟨lower type, lower subtype, none⟩
  else ⟨lower type, lower name, some (lower suffix)⟩

/-- The media type that a text states. Only printable characters of ASCII may stand in it. -/
def MediaType.ofText? (s : String) : Option MediaType :=
  let cs := s.toList
  let type := cs.takeWhile isTokenChar
  match cs.drop type.length with
  | '/' :: rest =>
    let subtype := rest.takeWhile isTokenChar
    let isWellFormed := match rest.drop subtype.length with
      | [] => true
      | ';' :: parameters =>
        !subtype.isEmpty && areParameters (parameters.length + 1) parameters
      | _ => false
    if type.isEmpty || !isWellFormed || cs.any (126 < ·.toNat) then none
    else some (.ofNames type subtype)
  | _ => none

def MediaType.isJson (m : MediaType) : Bool :=
  m.type == "application" && (m.subtype == "json" || m.suffix? == some "json")

example :
    (MediaType.ofText? "Application/vnd.api+JSON; charset=utf-8").any MediaType.isJson = true := by
  decide +kernel

example : MediaType.ofText? "application/json ;a=b" = none := by decide +kernel

end ZoneGuard.Http
