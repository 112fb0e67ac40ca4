import ZoneGuard.Classification
import ZoneGuard.Group
import ZoneGuard.Text.Lines
import ZoneGuard.Text.Utf8

/-!
# Reports

The outcome of an analysis: the findings of every rule, their groups, how the engine contributed,
and what was inconsistent. A report is written as a summary for a terminal or as JSON.
-/

namespace ZoneGuard

open Json (Value)

/-- How the engine contributed to a report. -/
inductive EngineStatus where
  /-- Its output was classified. -/
  | complete
  /-- Its output was missing or malformed. -/
  | degraded
  /-- It was not asked. -/
  | skipped
deriving DecidableEq, Repr

def EngineStatus.name : EngineStatus → String
  | .complete => "complete"
  | .degraded => "degraded"
  | .skipped => "skipped"

/-- The outcome of an analysis. -/
structure Report where
  findings : FindingTable
  groups : GroupTable
  status : EngineStatus
  degradedReason? : Option String
  digest : String
  warnings : List Warning
deriving DecidableEq

namespace Report

/-- The report of the engine's findings and the local ones. -/
def build (engine own : FindingTable) (digest : String) : Report where
  findings := engine.join own
  groups := .merge engine own
  status := .complete
  degradedReason? := none
  digest
  warnings := []

def withWarnings (r : Report) (warnings : List Warning) : Report := { r with warnings }

/-- The report, marked as lacking the engine's findings. -/
def degraded (r : Report) (reason : String) : Report :=
  { r with status := .degraded, degradedReason? := some reason }

/-- The report, marked as made without the engine. -/
def skipped (r : Report) : Report := { r with status := .skipped }

def findingCount (r : Report) : Nat := r.findings.values.flatten.length

def groupCount (r : Report) : Nat := r.groups.values.flatten.length

def isClean (r : Report) : Bool := r.findingCount == 0

/-- The first twelve bytes of the digest. It is not cut inside a character. -/
def shortDigest (digest : String) : String :=
  go 12 [] digest.toList
where
  /-- Takes characters while bytes are left; the ones taken so far stand last first. -/
  go (left : Nat) (taken : List Char) : List Char → String
    | [] => if left = 0 then String.ofList taken.reverse else digest
    | c :: cs =>
      if left = 0 then String.ofList taken.reverse
      else if c.utf8Size ≤ left then go (left - c.utf8Size) (c :: taken) cs
      else digest

/-- The first line of the summary. -/
def headline (r : Report) : String :=
  let short := shortDigest r.digest
  "archcheck: " ++ toString r.findingCount ++ " violation(s) in " ++ toString r.groupCount
    ++ " group(s) [solver " ++ r.status.name ++ "] spec " ++ (if short.isEmpty then "-" else short)

/-- The lines of a group. Advice is repeated only if it is not the catalog's. -/
def groupLines (rule : Rule) (g : Group) : List String :=
  let data := if g.data.isEmpty then "" else " [data: " ++ ", ".intercalate g.data ++ "]"
  ("  - " ++ g.primary.subject.text ++ data)
    :: (if g.primary.remediation = rule.remediation then [] else ["    " ++ g.primary.remediation])

/-- The lines of a rule; none if it has no groups. -/
def ruleLines (rule : Rule) (groups : List Group) : List String :=
  if groups.isEmpty then []
  else
    ["", rule.key ++ " (" ++ toString groups.length ++ ")", "  " ++ rule.remediation]
      ++ groups.flatMap (groupLines rule)

def warningLines (warnings : List Warning) : List String :=
  if warnings.isEmpty then [] else ["", "warnings:"] ++ warnings.map fun w => "  - " ++ w.text

/-- The summary, line by line. An id that contains a line feed goes on in the next line. -/
def lines (r : Report) : List String :=
  r.headline
    :: (match r.degradedReason? with
      | some reason => ["  engine output unavailable: " ++ reason]
      | none => [])
    ++ r.groups.entries.flatMap (fun (rule, groups) => ruleLines rule groups)
    ++ warningLines r.warnings

def text (r : Report) : String := Text.unlines r.lines

def toJson (r : Report) : Value :=
  .object
    ([("threats", r.findings.toJson Finding.toJson),
      ("total_count", .ofNat r.findingCount),
      ("merged", r.groups.toJson Group.toJson),
      ("merged_count", .ofNat r.groupCount),
      ("solver_status", .string r.status.name)]
      ++ (match r.degradedReason? with
        | some reason => [("degraded_reason", .string reason)]
        | none => [])
      ++ [("spec_digest", .string r.digest),
          ("warnings", .array (r.warnings.map Warning.toJson))])

end Report

end ZoneGuard
