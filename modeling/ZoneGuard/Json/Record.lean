import ZoneGuard.Json.Value
import ZoneGuard.Text.Quoted

/-!
# Records

A record is an object, whose members may have older names, or an array of the fields in their order.
Members without a known name do not count. What the fields hold is looked at later.
-/

namespace ZoneGuard.Json

/-- A field of a record, with the older names it may also be given under. -/
structure Field where
  name : String
  olderNames : List String := []
deriving DecidableEq

/-- The fields of one type of record, in order. -/
structure RecordType where
  name : String
  fields : List Field
deriving DecidableEq

def RecordType.fieldName? (t : RecordType) (spelling : String) : Option String :=
  (t.fields.find? fun f => f.name == spelling || f.olderNames.contains spelling).map (·.name)

/-- The values given for the fields of a record, by the names of the fields. -/
structure Record where
  values : List (String × Value)

/-- The value of a field. `null` counts as absent. -/
def Record.field? (r : Record) (name : String) : Option Value :=
  match r.values.lookup name with
  | some .null => none
  | v? => v?

/-- Why a value does not have the expected shape. -/
inductive ShapeError where
  /-- The whole document is not an object. -/
  | notObject
  /-- A value of another type stands where `expected` should. -/
  | invalidType (found : Value) (expected : String)
  /-- A positional record has more items than fields. -/
  | tooManyItems (count : Nat)
  /-- A field is given twice, perhaps under two names. -/
  | duplicateField (name : String)

/-- The type of a value in words, with the value itself if it is short. -/
def valueKindText : Value → String
  | .null => "null"
  | .bool b => "boolean \x60" ++ (if b then "true" else "false") ++ "\x60"
  | .number (.integer n) => "integer \x60" ++ toString n ++ "\x60"
  | .number (.float x) => "floating point \x60" ++ Decimal.floatText x ++ "\x60"
  | .string s => "string " ++ Text.quote s
  | .array _ => "sequence"
  | .object _ => "map"

def ShapeError.message : ShapeError → String
  | .notObject => "top-level value must be an object"
  | .invalidType found expected =>
    "invalid type: " ++ valueKindText found ++ ", expected " ++ expected
  | .tooManyItems count =>
    "invalid length " ++ toString count ++ ", expected fewer elements in array"
  | .duplicateField name => "duplicate field \x60" ++ name ++ "\x60"

namespace RecordType

/-- The record given by members, the names of earlier ones being `known`. -/
def ofMembers (t : RecordType) (known : List String) :
    List (String × Value) → Except ShapeError (List (String × Value))
  | [] => .ok []
  | (spelling, v) :: rest =>
    match t.fieldName? spelling with
    | none => ofMembers t known rest
    | some name =>
      if known.contains name then .error (.duplicateField name)
      else
        match ofMembers t (name :: known) rest with
        | .error e => .error e
        | .ok values => .ok ((name, v) :: values)

def read (t : RecordType) : Value → Except ShapeError Record
  | .object members =>
    match t.ofMembers [] members with
    | .error e => .error e
    | .ok values => .ok ⟨values⟩
  | .array items =>
    if t.fields.length < items.length then .error (.tooManyItems items.length)
    else .ok ⟨(t.fields.map (·.name)).zip items⟩
  | v => .error (.invalidType v ("struct " ++ t.name))

/-- Reads the records of a list, up to the first that fails. -/
def readItems (t : RecordType) : List Value → Except ShapeError (List Record)
  | [] => .ok []
  | v :: vs =>
    match t.read v with
    | .error e => .error e
    | .ok r =>
      match readItems t vs with
      | .error e => .error e
      | .ok rs => .ok (r :: rs)

/-- Reads a list of records. An absent list and `null` are empty. -/
def readList (t : RecordType) : Option Value → Except ShapeError (List Record)
  | none | some .null => .ok []
  | some (.array items) => t.readItems items
  | some v => .error (.invalidType v "a sequence")

end RecordType

end ZoneGuard.Json
