import ZoneGuard.Json.Value

/-!
# Tables of a TOML document

A document is built from assignments and headers. A table may be defined by one header only, a table
written inline is closed, and a table made by dotted keys grows by dotted keys only. Every violation
of these rules makes the document invalid.
-/

namespace ZoneGuard.Toml

open Json (Value)

inductive Origin where
  /-- Its own header. -/
  | header
  /-- The header of a table inside it. -/
  | outer
  /-- A dotted key. -/
  | dotted
deriving DecidableEq, Repr

/-- What a key of a table stands for. -/
inductive Node where
  /-- A closed value. -/
  | value (v : Value)
  | table (origin : Origin) (members : List (String × Node))
  /-- The tables of one array, each with a header of its own, in order. -/
  | tables (first : List (List (String × Node))) (last : List (String × Node))

abbrev Members := List (String × Node)

namespace Members

/-- The members with the node of a key changed, or with a new one if there is none. -/
def change (key : String) (f : Option Node → Option Node) : Members → Option Members
  | [] => (f none).map fun node => [(key, node)]
  | (other, node) :: rest =>
    if other = key then (f (some node)).map fun node => (other, node) :: rest
    else (change key f rest).map ((other, node) :: ·)

/-- The members with the table at the end of a path changed. Missing tables on the way are made; of
an array of tables the last is meant. -/
def changeAt : List String → (Members → Option Members) → Members → Option Members
  | [], f, ms => f ms
  | key :: path, f, ms =>
    change key (fun
      | none => (changeAt path f []).map (.table .outer)
      | some (.table origin inner) => (changeAt path f inner).map (.table origin)
      | some (.tables first last) => (changeAt path f last).map (.tables first)
      | some (.value _) => none) ms

/-- Assigns a value to a key that has none yet. The keys of `path` come before its own. -/
def assign : List String → String → Value → Members → Option Members
  | [], key, v, ms =>
    change key (fun
      | none => some (.value v)
      | some _ => none) ms
  | outer :: path, key, v, ms =>
    change outer (fun
      | none => (assign path key v []).map (.table .dotted)
      | some (.table .dotted inner) => (assign path key v inner).map (.table .dotted)
      | some (.table .outer inner) =>
        if path.isEmpty then none else (assign path key v inner).map (.table .outer)
      | some (.tables first last) =>
        if path.isEmpty then none else (assign path key v last).map (.tables first)
      | some (.table .header _) | some (.value _) => none) ms

def openTable (key : String) : Members → Option Members :=
  change key fun
    | none => some (.table .header [])
    | some (.table .outer inner) => some (.table .header inner)
    | some _ => none

def openElement (key : String) : Members → Option Members :=
  change key fun
    | none => some (.tables [] [])
    | some (.tables first last) => some (.tables (first ++ [last]) [])
    | some _ => none

end Members

mutual

def Node.toValue : Node → Value
  | .value v => v
  | .table _ members => .object (membersToValues members)
  | .tables first last => .array (tablesToValues first ++ [.object (membersToValues last)])

def membersToValues : List (String × Node) → List (String × Value)
  | [] => []
  | (key, node) :: rest => (key, node.toValue) :: membersToValues rest

def tablesToValues : List (List (String × Node)) → List Value
  | [] => []
  | members :: rest => .object (membersToValues members) :: tablesToValues rest

end

end ZoneGuard.Toml
