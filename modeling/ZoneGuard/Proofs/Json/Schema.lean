import Mathlib
import ZoneGuard.Json.Value

/-!
# Schemas

A schema is what it accepts.  Its keywords are combined as a schema document combines
them: a keyword for one type of value accepts every value of another type, and all
keywords of a schema have to accept.  An integer is a number without a fractional
part, however it is written.
-/

namespace ZoneGuard.Json

/-- The number has no fractional part. -/
def Number.isIntegral : Number → Bool
  | .integer _ => true
  | .float x => x.toQuotient.1 % x.toQuotient.2 == 0

def Number.hasValue (value : Nat) : Number → Bool
  | .integer n => n == value
  | .float x =>
    x.toQuotient.1 == value * x.toQuotient.2 && (!x.negative || x.toQuotient.1 == 0)

abbrev Schema := Value → Bool

inductive SchemaType where
  | null
  | boolean
  | integer
  | string
  | array
  | object
deriving DecidableEq

def SchemaType.holds : SchemaType → Schema
  | .null, .null => true
  | .boolean, .bool _ => true
  | .integer, .number n => n.isIntegral
  | .string, .string _ => true
  | .array, .array _ => true
  | .object, .object _ => true
  | _, _ => false

namespace Schema

def ofTypes (types : List SchemaType) : Schema := fun v => types.any (·.holds v)

def texts (values : List String) : Schema
  | .string s => values.contains s
  | _ => false

def numbers (values : List Nat) : Schema
  | .number n => values.any fun value => n.hasValue value
  | _ => false

def all (schemas : List Schema) : Schema := fun v => schemas.all (· v)

def anyOf (schemas : List Schema) : Schema := fun v => schemas.any (· v)

/-- Accepted by one schema and no other. -/
def oneOf (schemas : List Schema) : Schema := fun v => schemas.countP (· v) == 1

def items (schema : Schema) : Schema
  | .array vs => vs.all schema
  | _ => true

def properties (described : List (String × Schema)) : Schema
  | .object members => members.all fun m => (described.lookup m.1).all (· m.2)
  | _ => true

def required (names : List String) : Schema
  | .object members => names.all fun name => members.any (·.1 == name)
  | _ => true

def list (schema : Schema) : Schema := all [ofTypes [.array, .null], items schema]

/-! ## Accepted values -/

/-- A value is accepted by several schemas if it is by each of them. -/
theorem all_cons_iff {schema : Schema} {schemas : List Schema} {v : Value} :
    all (schema :: schemas) v = true ↔ schema v = true ∧ all schemas v = true :=
  Bool.and_eq_true_iff

theorem exists_object {v : Value} (h : ofTypes [.object] v = true) :
    ∃ members, v = .object members := by
  cases v with
  | object members => exact ⟨members, rfl⟩
  | _ => cases h

theorem of_properties {described : List (String × Schema)} {members : List (String × Value)}
    (h : properties described (.object members) = true) {name : String} {v : Value}
    (hv : (name, v) ∈ members) {schema : Schema} (hschema : described.lookup name = some schema) :
    schema v = true := by
  have haccepted := List.all_eq_true.1 h _ hv
  rwa [hschema] at haccepted

theorem exists_of_required {names : List String} {members : List (String × Value)}
    (h : required names (.object members) = true) {name : String} (hname : name ∈ names) :
    ∃ v, (name, v) ∈ members := by
  obtain ⟨⟨key, v⟩, hmem, hkey⟩ := List.any_eq_true.1 (List.all_eq_true.1 h name hname)
  obtain rfl : key = name := eq_of_beq hkey
  exact ⟨v, hmem⟩

/-- A list is `null` or has accepted items only. -/
theorem list_cases {schema : Schema} {v : Value} (h : list schema v = true) :
    v = .null ∨ ∃ vs, v = .array vs ∧ ∀ w ∈ vs, schema w = true := by
  obtain ⟨htype, hall⟩ := all_cons_iff.1 h
  obtain ⟨hitems, -⟩ := all_cons_iff.1 hall
  cases v with
  | null => exact Or.inl rfl
  | array vs => exact Or.inr ⟨vs, rfl, List.all_eq_true.1 hitems⟩
  | _ => cases htype

theorem exists_map_object {vs : List Value} (h : ∀ v ∈ vs, ofTypes [.object] v = true) :
    ∃ objects : List (List (String × Value)), vs = objects.map .object := by
  induction vs with
  | nil => exact ⟨[], rfl⟩
  | cons v vs ih =>
      obtain ⟨hv, hvs⟩ := List.forall_mem_cons.1 h
      obtain ⟨members, rfl⟩ := exists_object hv
      obtain ⟨objects, rfl⟩ := ih hvs
      exact ⟨members :: objects, rfl⟩

end Schema

end ZoneGuard.Json
