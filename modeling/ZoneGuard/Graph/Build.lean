import ZoneGuard.Graph.Basic
import ZoneGuard.Graph.Payload
import ZoneGuard.Json.Reader

/-!
# From payload to graph

Settles every attribute of a payload and checks its structure. Zones come first, then data, systems
and connections, each in payload order, and the first fault is the error. A data asset that is
referred to without being declared is inferred as a sensitive document. A connection without an id
gets one that no other connection has.
-/

namespace ZoneGuard

open Json (Value Record ShapeError)

/-- A field that refers to an entity which has to be declared. -/
inductive ReferenceField where
  | location
  | source
  | target
deriving DecidableEq, Repr

def ReferenceField.name : ReferenceField → String
  | .location => "location"
  | .source => "from"
  | .target => "to"

/-- Why a payload is not an architecture graph. -/
inductive GraphError where
  /-- The text is not JSON. -/
  | syntaxError (error : Json.ReadError)
  /-- The value does not have the outer shape of a graph. -/
  | shape (error : ShapeError)
  | missingId (kind : EntityKind) (index : Nat)
  | duplicateId (kind : EntityKind) (id : String)
  /-- Two ids of a kind have one identifier. -/
  | idCollision (kind : EntityKind) (first second : String) (id : Identifier)
  | missingLocation (system : String)
  | danglingReference (kind : EntityKind) (id : String) (field : ReferenceField) (target : String)

def GraphError.message : GraphError → String
  | .syntaxError e => "invalid JSON: " ++ e.message
  | .shape e => "invalid graph: " ++ e.message
  | .missingId kind index =>
    kind.signature ++ " at index " ++ toString index ++ " has no id"
  | .duplicateId kind id => kind.signature ++ " '" ++ id ++ "' is declared more than once"
  | .idCollision kind first second id =>
    kind.signature ++ " ids '" ++ first ++ "' and '" ++ second ++ "' both normalize to '"
      ++ id.text ++ "'"
  | .missingLocation system => "System '" ++ system ++ "' has no location"
  | .danglingReference kind id field target =>
    kind.signature ++ " '" ++ id ++ "': " ++ field.name ++ " references undeclared '" ++ target
      ++ "'"

/-! ### Values of fields -/

/-- The text of an id: a string as it is, a number in decimal. -/
def idText? : Value → Option String
  | .string s => some s
  | .number n => some n.text
  | _ => none

/-- The member of an enumeration that a value names, or `default` if it names none. -/
def attributeOr {α : Type} [Attribute α] (default : α) : Option Value → α
  | some (.string s) => (Attribute.ofSpelling? s).getD default
  | _ => default

/-- The spellings of a set flag. -/
def trueSpellings : List String := ["true", "True", "TRUE", "1", "yes", "Yes"]

/-- The spellings of a cleared flag. -/
def falseSpellings : List String := ["false", "False", "FALSE", "0", "no", "No"]

/-- The truth value that a value stands for, or `default` if it stands for none. -/
def flagOr (default : Bool) : Option Value → Bool
  | some (.bool b) => b
  | some (.number (.integer 0)) => false
  | some (.number (.integer 1)) => true
  | some (.string s) =>
    let s := Text.trim s
    if trueSpellings.contains s then true
    else if falseSpellings.contains s then false
    else default
  | _ => default

/-- The ids of a list of references: an array of ids, one text with commas between ids, or a single
number. -/
def referenceTexts : Option Value → List String
  | some (.array items) => items.filterMap idText?
  | some (.string s) =>
    let parts := (Text.splitAtEach ',' s.toList).map Text.trimChars
    (parts.filter fun part => !part.isEmpty).map String.ofList
  | some (.number n) => [n.text]
  | _ => []

/-! ### Entities -/

def register (kind : EntityKind) (table : IdTable) (raw : String) (index : Nat) :
    Except GraphError (Identifier × IdTable) :=
  match table.insert raw index with
  | .ok result => .ok result
  | .error .duplicate => .error (.duplicateId kind raw)
  | .error (.collision id existing) => .error (.idCollision kind existing raw id)

def Json.Record.id? (r : Record) : Option String := (r.field? "id").bind idText?

def requiredId (kind : EntityKind) (index : Nat) (r : Record) : Except GraphError String :=
  match r.id? with
  | some raw => .ok raw
  | none => .error (.missingId kind index)

def Location.ofRecord (id : EntityId) (r : Record) : Location where
  id
  grade := attributeOr .open (r.field? "grade")
  zoneType := attributeOr .internet (r.field? "type")

def DataAsset.ofRecord (id : EntityId) (r : Record) : DataAsset where
  id
  grade := attributeOr .open (r.field? "grade")
  contentType := attributeOr .document (r.field? "fileType")
  inferred := false

def DataAsset.ofReference (id : EntityId) : DataAsset where
  id
  grade := .sensitive
  contentType := .document
  inferred := true

/-- The system that a record describes, its references being settled. -/
def System.ofRecord (id : EntityId) (location : Identifier) (stores : List Identifier)
    (r : Record) : System where
  id
  grade := attributeOr .open (r.field? "grade")
  location
  systemType := attributeOr .server (r.field? "type")
  authType := attributeOr .idPassword (r.field? "authType")
  isCrossDomain := flagOr false (r.field? "isCDS")
  isRegistered := flagOr true (r.field? "isRegistered")
  isStorageEncrypted := flagOr false (r.field? "isStorageEncrypted")
  isManagement := flagOr false (r.field? "isManagement")
  isolation := attributeOr .noIsolation (r.field? "isolation")
  isDeviceManaged := flagOr false (r.field? "hasMDM")
  patchStatus := attributeOr .upToDate (r.field? "patchStatus")
  lifeCycle := attributeOr .active (r.field? "lifeCycle")
  hasAuditLogging := flagOr false (r.field? "hasAuditLogging")
  hasSecureClock := flagOr false (r.field? "hasSecureClock")
  sessionPolicy := attributeOr .unlimited (r.field? "sessionPolicy")
  stores

/-- The connection that a record describes, its references being settled. -/
def Connection.ofRecord (id : EntityId) (source target : Identifier) (carries : List Identifier)
    (r : Record) : Connection where
  id
  source
  target
  carries
  protocol := attributeOr .http (r.field? "protocol")
  isEncrypted := flagOr false (r.field? "isEncrypted")
  hasDisarming := flagOr false (r.field? "hasCDR")
  hasLossPrevention := flagOr false (r.field? "hasDLP")
  hasAntiVirus := flagOr false (r.field? "hasAntiVirus")

namespace Graph

def addLocation (g : Graph) (index : Nat) (r : Record) : Except GraphError Graph := do
  let raw ← requiredId .location index r
  let (safe, table) ← register .location g.ids.locations raw index
  return { g with
    locations := g.locations ++ [.ofRecord ⟨raw, safe⟩ r]
    ids := { g.ids with locations := table } }

def addData (g : Graph) (index : Nat) (r : Record) : Except GraphError Graph := do
  let raw ← requiredId .data index r
  let (safe, table) ← register .data g.ids.data raw index
  return { g with
    data := g.data ++ [.ofRecord ⟨raw, safe⟩ r]
    ids := { g.ids with data := table } }

/-- The data asset with the given id, which is inferred if there is none. -/
def referToData (g : Graph) (raw : String) : Except GraphError (Identifier × Graph) :=
  match g.ids.data.safe? raw with
  | some safe => .ok (safe, g)
  | none => do
    let (safe, table) ← register .data g.ids.data raw g.data.length
    return (safe, { g with
      data := g.data ++ [.ofReference ⟨raw, safe⟩]
      ids := { g.ids with data := table } })

/-- The data assets with the given ids, in order and with repeats. -/
def referToAll (g : Graph) : List String → Except GraphError (List Identifier × Graph)
  | [] => .ok ([], g)
  | raw :: raws => do
    let (id, g) ← g.referToData raw
    let (ids, g) ← g.referToAll raws
    return (id :: ids, g)

/-- The zone that a system's record names. -/
def placement (g : Graph) (raw : String) (r : Record) : Except GraphError Identifier :=
  match (r.field? "location").bind idText? with
  | none => .error (.missingLocation raw)
  | some target =>
    match g.ids.locations.safe? target with
    | some id => .ok id
    | none => .error (.danglingReference .system raw .location target)

def addSystem (g : Graph) (index : Nat) (r : Record) : Except GraphError Graph := do
  let raw ← requiredId .system index r
  let (safe, table) ← register .system g.ids.systems raw index
  let g := { g with ids := { g.ids with systems := table } }
  let location ← g.placement raw r
  let (stores, g) ← g.referToAll (referenceTexts (r.field? "stores"))
  return { g with systems := g.systems ++ [.ofRecord ⟨raw, safe⟩ location stores r] }

/-- The system that an end of a connection names. An absent end names the empty id. -/
def endpoint (g : Graph) (raw : String) (field : ReferenceField) (r : Record) :
    Except GraphError Identifier :=
  let target := ((r.field? field.name).bind idText?).getD ""
  match g.ids.systems.safe? target with
  | some id => .ok id
  | none => .error (.danglingReference .connection raw field target)

/-- The id of a connection, and the counter to go on from. A missing id is drawn from the counter,
past the ids in use and those in `explicit`. -/
def connectionId (g : Graph) (explicit : List String) (next : Nat) (r : Record) : String × Nat :=
  match r.id? with
  | some raw => (raw, next)
  | none =>
    let table := g.ids.connections
    allocateName "conn" (fun name => explicit.contains name || table.isTaken name)
      (explicit.length + table.size) next

/-- Adds a connection, and gives the counter to go on from. -/
def addConnection (explicit : List String) (state : Graph × Nat) (index : Nat) (r : Record) :
    Except GraphError (Graph × Nat) := do
  let (g, next) := state
  let (raw, next) := g.connectionId explicit next r
  let (safe, table) ← register .connection g.ids.connections raw index
  let g := { g with ids := { g.ids with connections := table } }
  let source ← g.endpoint raw .source r
  let target ← g.endpoint raw .target r
  let (carries, g) ← g.referToAll (referenceTexts (r.field? "carries"))
  let connection := Connection.ofRecord ⟨raw, safe⟩ source target carries r
  return ({ g with connections := g.connections ++ [connection] }, next)

end Graph

/-- Adds the records one after the other, the first of them at position `index`. -/
def addEach {σ : Type} (add : σ → Nat → Record → Except GraphError σ) :
    σ → Nat → List Record → Except GraphError σ
  | state, _, [] => .ok state
  | state, index, r :: rs =>
    match add state index r with
    | .error e => .error e
    | .ok state => addEach add state (index + 1) rs

namespace Graph

/-- The graph of a payload whose outer shape is known. -/
def ofPayload (p : Payload) : Except GraphError Graph := do
  let g ← addEach addLocation {} 0 p.locations
  let g ← addEach addData g 0 p.data
  let g ← addEach addSystem g 0 p.systems
  let explicit := p.connections.filterMap Record.id?
  let (g, _) ← addEach (addConnection explicit) (g, 0) 0 p.connections
  return g

def ofJson (v : Value) : Except GraphError Graph :=
  match Payload.read v with
  | .error e => .error (.shape e)
  | .ok p => ofPayload p

def ofText (s : String) : Except GraphError Graph :=
  match Json.parse s with
  | .error e => .error (.syntaxError e)
  | .ok v => ofJson v

end Graph

end ZoneGuard
