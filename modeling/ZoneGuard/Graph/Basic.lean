import ZoneGuard.Attribute
import ZoneGuard.IdTable

/-!
# Architecture graphs

Zones, data assets, systems placed in zones, and connections between systems, with every attribute
settled. References hold identifiers. For each kind of entity a table records the ids in use and the
positions they were registered at; the tables are consulted for reading engine output and for the
zone of a system, while a specification is written from the lists alone.
-/

namespace ZoneGuard

/-- The id of an entity as it was given, and its identifier. -/
structure EntityId where
  raw : String
  safe : Identifier
deriving DecidableEq

/-- A zone. -/
structure Location where
  id : EntityId
  grade : Grade
  zoneType : ZoneType
deriving DecidableEq

/-- A data asset. It is inferred if it was referred to and never declared. -/
structure DataAsset where
  id : EntityId
  grade : Grade
  contentType : ContentType
  inferred : Bool
deriving DecidableEq

/-- A system and the data it stores. -/
structure System where
  id : EntityId
  grade : Grade
  location : Identifier
  systemType : SystemType
  authType : AuthType
  isCrossDomain : Bool
  isRegistered : Bool
  isStorageEncrypted : Bool
  isManagement : Bool
  isolation : Isolation
  isDeviceManaged : Bool
  patchStatus : PatchStatus
  lifeCycle : LifeCycle
  hasAuditLogging : Bool
  hasSecureClock : Bool
  sessionPolicy : SessionPolicy
  stores : List Identifier
deriving DecidableEq

/-- A directed connection between two systems and the data it carries. -/
structure Connection where
  id : EntityId
  source : Identifier
  target : Identifier
  carries : List Identifier
  protocol : Protocol
  isEncrypted : Bool
  hasDisarming : Bool
  hasLossPrevention : Bool
  hasAntiVirus : Bool
deriving DecidableEq

/-- The ids in use, for each kind of entity. -/
structure IdTables where
  locations : IdTable := ∅
  data : IdTable := ∅
  systems : IdTable := ∅
  connections : IdTable := ∅
deriving DecidableEq

def IdTables.ofKind (t : IdTables) : EntityKind → IdTable
  | .location => t.locations
  | .data => t.data
  | .system => t.systems
  | .connection => t.connections

/-- An architecture graph. -/
structure Graph where
  locations : List Location := []
  data : List DataAsset := []
  systems : List System := []
  connections : List Connection := []
  ids : IdTables := {}
deriving DecidableEq

namespace Graph

def count (g : Graph) : EntityKind → Nat
  | .location => g.locations.length
  | .data => g.data.length
  | .system => g.systems.length
  | .connection => g.connections.length

/-- The zone at the position that is registered for the identifier. -/
def location? (g : Graph) (id : Identifier) : Option Location :=
  (g.ids.locations.index? id).bind fun i => g.locations[i]?

def zone? (g : Graph) (s : System) : Option Location := g.location? s.location

end Graph

end ZoneGuard
