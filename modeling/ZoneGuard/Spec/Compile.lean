import ZoneGuard.Sha256
import ZoneGuard.Spec.Instance
import ZoneGuard.Text.Utf8

/-!
# Compiling a graph

A graph has a specification if each of its references names an entity in its lists. The tables of
ids are not consulted. The references of a system or a connection are checked right before its forms
are written, in the order of its fields, and the first one that does not resolve is the error.
-/

namespace ZoneGuard

/-- A field of an entity that names another entity. -/
structure Reference where
  ownerKind : EntityKind
  owner : Identifier
  field : String
  targetKind : EntityKind
  target : Identifier
deriving DecidableEq

/-- The references of a system: its zone, and the data it stores. -/
def System.references (s : System) : List Reference :=
  ⟨.system, s.id.safe, "loc", .location, s.location⟩
    :: s.stores.map fun id => ⟨.system, s.id.safe, "stores", .data, id⟩

/-- The references of a connection: its two ends, and the data it carries. -/
def Connection.references (c : Connection) : List Reference :=
  ⟨.connection, c.id.safe, "from", .system, c.source⟩
    :: ⟨.connection, c.id.safe, "to", .system, c.target⟩
    :: c.carries.map fun id => ⟨.connection, c.id.safe, "carries", .data, id⟩

/-- The text of a specification. -/
structure Specification where
  text : String
deriving DecidableEq

namespace Specification

def digest (s : Specification) : String := Sha256.hexDigest (Text.encode s.text)

end Specification

/-- Why a graph has no specification. -/
inductive CompileError where
  /-- The reference names no entity of the graph. -/
  | unresolved (reference : Reference)
deriving DecidableEq

def CompileError.message : CompileError → String
  | .unresolved r =>
    "structural error: " ++ r.ownerKind.atomLabel r.owner ++ "." ++ r.field
      ++ " references undeclared '" ++ r.target.text ++ "'"

namespace Graph

def identifiers (g : Graph) : EntityKind → List Identifier
  | .location => g.locations.map (·.id.safe)
  | .data => g.data.map (·.id.safe)
  | .system => g.systems.map (·.id.safe)
  | .connection => g.connections.map (·.id.safe)

/-- All references, in the order in which they are looked at. -/
def references (g : Graph) : List Reference :=
  g.systems.flatMap System.references ++ g.connections.flatMap Connection.references

/-- Whether the reference names an entity of the graph. -/
def resolves (g : Graph) (r : Reference) : Bool := (g.identifiers r.targetKind).contains r.target

/-- Refuses a reference that names no entity of the graph. -/
def check (g : Graph) (r : Reference) : Except CompileError Unit :=
  if g.resolves r then .ok () else .error (.unresolved r)

/-- Writes the forms of an entity behind the text, once each of its references is checked. -/
def emit (g : Graph) (text : String) (references : List Reference) (forms : List Spec.Form) :
    Except CompileError String := do
  forM references g.check
  return text ++ Spec.render forms

def compile (g : Graph) : Except CompileError Specification := do
  let text := Spec.render
    (commonForms ++ g.locations.flatMap Location.forms ++ g.data.flatMap DataAsset.forms)
  let text ← g.systems.foldlM (fun text s => g.emit text s.references s.forms) text
  let text ← g.connections.foldlM (fun text c => g.emit text c.references c.forms) text
  return ⟨text ++ Spec.render (resultForms ++ [.run g.scope])⟩

end Graph

end ZoneGuard
