import ZoneGuard.Identifier

/-!
# Tables of ids

For one kind of entity, the ids registered so far, each with its identifier and the position of the
entity in its list. An id is refused if it is registered already or if its identifier is taken.
Names for entities without an id are drawn from a counter.
-/

namespace ZoneGuard

/-- A registered id. -/
structure IdEntry where
  raw : String
  id : Identifier
  index : Nat
deriving DecidableEq

/-- The registered ids, the latest first. -/
structure IdTable where
  entries : List IdEntry
deriving DecidableEq

/-- Why an id could not be registered. -/
inductive IdConflict where
  /-- The id itself is registered. -/
  | duplicate
  /-- Another id has the same identifier. -/
  | collision (id : Identifier) (existing : String)
deriving DecidableEq

namespace IdTable

instance : EmptyCollection IdTable := ⟨⟨[]⟩⟩

def ofRaw? (t : IdTable) (raw : String) : Option IdEntry := t.entries.find? (·.raw == raw)

def entryOf? (t : IdTable) (id : Identifier) : Option IdEntry := t.entries.find? (·.id == id)

def safe? (t : IdTable) (raw : String) : Option Identifier := (t.ofRaw? raw).map (·.id)

def raw? (t : IdTable) (id : Identifier) : Option String := (t.entryOf? id).map (·.raw)

def index? (t : IdTable) (id : Identifier) : Option Nat := (t.entryOf? id).map (·.index)

/-- Whether the id is registered, or another with its identifier is. -/
def isTaken (t : IdTable) (raw : String) : Bool :=
  (t.ofRaw? raw).isSome || (t.entryOf? (Identifier.ofText raw)).isSome

def size (t : IdTable) : Nat := t.entries.length

/-- Registers an id at a position, and gives its identifier. -/
def insert (t : IdTable) (raw : String) (index : Nat) :
    Except IdConflict (Identifier × IdTable) :=
  if (t.ofRaw? raw).isSome then .error .duplicate
  else
    let id := Identifier.ofText raw
    match t.raw? id with
    | some existing => .error (.collision id existing)
    | none => .ok (id, ⟨⟨raw, id, index⟩ :: t.entries⟩)

end IdTable

def numberedName (stem : String) (n : Nat) : String := stem ++ "_" ++ toString n

/-- The least number from `next` on whose name is not taken, among the next `attempts` numbers. -/
def leastFree? (stem : String) (isTaken : String → Bool) : (attempts next : Nat) → Option Nat
  | 0, _ => none
  | attempts + 1, next =>
    if isTaken (numberedName stem next) then leastFree? stem isTaken attempts (next + 1)
    else some next

/-- A free name, and the counter to go on from. Among `taken + 1` numbers one is free if at most
`taken` names are not. -/
def allocateName (stem : String) (isTaken : String → Bool) (taken next : Nat) : String × Nat :=
  let n := (leastFree? stem isTaken (taken + 1) next).getD (next + taken + 1)
  (numberedName stem n, n + 1)

end ZoneGuard
