import ZoneGuard.Json.Value
import ZoneGuard.Rule.Table

/-!
# Findings

A finding says that a system or a connection violates a rule, with the data asset concerned if the
rule names one, and with the advice that goes with it. Findings stand in a table by their rules.
-/

namespace ZoneGuard

open Json (Value)

/-- What a finding is about. A system and a connection with one id are different subjects. -/
inductive Subject where
  | system (id : String)
  | connection (id : String)
deriving DecidableEq, Repr

namespace Subject

/-- The subject of the given kind; every kind but a connection is taken as a system. -/
def ofKind (kind : EntityKind) (id : String) : Subject :=
  match kind with
  | .connection => .connection id
  | _ => .system id

def id : Subject → String
  | .system id | .connection id => id

def kind : Subject → EntityKind
  | .system _ => .system
  | .connection _ => .connection

def text : Subject → String
  | .system id => "system '" ++ id ++ "'"
  | .connection id => "connection '" ++ id ++ "'"

def toMember : Subject → String × Value
  | .system id => ("system", .string id)
  | .connection id => ("connection", .string id)

end Subject

/-- A violation of a rule. -/
structure Finding where
  subject : Subject
  data? : Option String
  remediation : String
deriving DecidableEq, Repr

namespace Finding

/-- The finding of a rule, with the advice of the catalog. -/
def ofRule (r : Rule) (subject : Subject) (data? : Option String) : Finding :=
  ⟨subject, data?, r.remediation⟩

def toJson (f : Finding) : Value :=
  .object ([f.subject.toMember]
    ++ (match f.data? with
      | some id => [("data", .string id)]
      | none => [])
    ++ [("remediation", .string f.remediation)])

end Finding

abbrev FindingTable := RuleTable (List Finding)

/-- The findings of a rule; none if the table has no entry for it. -/
def FindingTable.of (t : FindingTable) (r : Rule) : List Finding := (t.get? r).getD []

def RuleTable.toJson {α : Type} (t : RuleTable (List α)) (item : α → Value) : Value :=
  .object (t.entries.map fun (r, items) => (r.key, .array (items.map item)))

end ZoneGuard
