import ZoneGuard.Finding
import ZoneGuard.Graph.Basic
import ZoneGuard.Relation

/-!
# Findings of the engine

Turns the relations of engine output into findings. The first atom of a tuple is the owner of the
relation, the second the subject, and the third the data asset if the rule names one. Atoms are
turned back into the ids of the graph. What disagrees with the catalog or the graph is kept and
reported as a warning; a tuple that is too short is passed over.
-/

namespace ZoneGuard

open Json (Value)

/-- Engine output that disagrees with the catalog or the graph. -/
inductive Warning where
  /-- A label that looks like a rule and is none. -/
  | unknownRule (field : String)
  /-- A rule that is evaluated here. -/
  | localRule (rule : Rule)
  /-- An atom of no entity of the graph. -/
  | unknownAtom (rule : Rule) (entity : EntityKind) (atom : String)
deriving DecidableEq, Repr

namespace Warning

def text : Warning → String
  | .unknownRule field => "engine reported undeclared rule field '" ++ field ++ "'"
  | .localRule rule => "engine reported '" ++ rule.key ++ "', which is evaluated in-process"
  | .unknownAtom rule entity atom =>
    rule.key ++ ": " ++ entity.signature ++ " '" ++ atom ++ "' is not in the input graph"

def toJson : Warning → Value
  | .unknownRule field => .object [("kind", .string "unknown_rule"), ("field", .string field)]
  | .localRule rule =>
    .object [("kind", .string "fast_path_rule_from_solver"), ("rule", .string rule.key)]
  | .unknownAtom rule entity atom =>
    .object
      [("kind", .string "unknown_atom"), ("rule", .string rule.key),
       ("entity", .string entity.signature), ("atom", .string atom)]

end Warning

/-- The warning that a label of a relation deserves. Labels that are no rule's key and do not begin
like one belong to the rest of the specification. -/
def labelWarning? (label : String) : Option Warning :=
  match Rule.ofKey? label with
  | some rule => if rule.byEngine then none else some (.localRule rule)
  | none => if "Find".toList.isPrefixOf label.toList then some (.unknownRule label) else none

/-- The id that an atom stands for. An atom of no entity stands for itself. -/
def declaredId (ids : IdTables) (rule : Rule) (kind : EntityKind) (atom : String) :
    String × List Warning :=
  match (ids.ofKind kind).raw? (Identifier.ofText atom) with
  | some raw => (raw, [])
  | none => (atom, [.unknownAtom rule kind atom])

/-- The finding that a tuple stands for, and the warnings about it. -/
def findingOfTuple? (ids : IdTables) (rule : Rule) (tuple : AtomTuple) :
    Option (Finding × List Warning) :=
  match rule.arity.hasData, tuple with
  | false, _ :: subject :: _ =>
    let (id, warnings) := declaredId ids rule rule.arity.subject subject
    some (.ofRule rule (.ofKind rule.arity.subject id) none, warnings)
  | true, _ :: subject :: data :: _ =>
    let (id, subjectWarnings) := declaredId ids rule rule.arity.subject subject
    let (dataId, dataWarnings) := declaredId ids rule .data data
    some (.ofRule rule (.ofKind rule.arity.subject id) (some dataId),
      subjectWarnings ++ dataWarnings)
  | _, _ => none

/-- The findings of the engine's rules, and the warnings. -/
structure Classification where
  findings : FindingTable
  warnings : List Warning
deriving DecidableEq

/-- The findings that the tuples of a rule stand for, with the warnings about each. -/
def findingsOf (ids : IdTables) (table : RelationTable) (rule : Rule) :
    List (Finding × List Warning) :=
  (table.get rule.key).filterMap (findingOfTuple? ids rule)

/-- Classifies engine output. Warnings about labels come before those about atoms. -/
def RelationTable.classify (table : RelationTable) (ids : IdTables) : Classification where
  findings := .ofFn Rule.engineRules fun r => (findingsOf ids table r).map (·.1)
  warnings :=
    table.labels.filterMap labelWarning?
      ++ Rule.engineRules.flatMap fun r => (findingsOf ids table r).flatMap (·.2)

end ZoneGuard
