import ZoneGuard.Json.Record

/-!
# Graph payloads

The outer shape of a graph payload: an object with up to four lists, each of them a list of records.
-/

namespace ZoneGuard

open Json (Value Record RecordType ShapeError)

def locationRecord : RecordType where
  name := "RawLocation"
  fields := [⟨"id", []⟩, ⟨"grade", []⟩, ⟨"type", []⟩]

def dataRecord : RecordType where
  name := "RawData"
  fields := [⟨"id", []⟩, ⟨"grade", []⟩, ⟨"fileType", ["contentType"]⟩]

def systemRecord : RecordType where
  name := "RawSystem"
  fields :=
    [⟨"id", []⟩, ⟨"grade", []⟩, ⟨"location", ["loc"]⟩, ⟨"type", []⟩, ⟨"authType", []⟩,
     ⟨"isCDS", []⟩, ⟨"isRegistered", ["is_registered"]⟩, ⟨"isStorageEncrypted", []⟩,
     ⟨"isManagement", []⟩, ⟨"isolation", []⟩, ⟨"hasMDM", []⟩,
     ⟨"patchStatus", ["patch_status"]⟩, ⟨"lifeCycle", ["eol_status"]⟩,
     ⟨"hasAuditLogging", ["audit_log"]⟩, ⟨"hasSecureClock", ["ntp_sync"]⟩,
     ⟨"sessionPolicy", ["session_policy"]⟩, ⟨"stores", []⟩]

def connectionRecord : RecordType where
  name := "RawConnection"
  fields :=
    [⟨"id", []⟩, ⟨"from", []⟩, ⟨"to", []⟩, ⟨"carries", []⟩, ⟨"protocol", []⟩,
     ⟨"isEncrypted", []⟩, ⟨"hasCDR", []⟩, ⟨"hasDLP", []⟩, ⟨"hasAntiVirus", []⟩]

/-- The records of a graph payload, by kind of entity. -/
structure Payload where
  locations : List Record
  data : List Record
  systems : List Record
  connections : List Record

/-- Reads the lists of a payload. They are looked at in the order of their names. -/
def Payload.read : Value → Except ShapeError Payload
  | .object members => do
    let connections ← connectionRecord.readList (members.lookup "connections")
    let data ← dataRecord.readList (members.lookup "data")
    let locations ← locationRecord.readList (members.lookup "locations")
    let systems ← systemRecord.readList (members.lookup "systems")
    return ⟨locations, data, systems, connections⟩
  | _ => .error .notObject

end ZoneGuard
