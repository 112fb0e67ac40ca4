import ZoneGuard.Engine.Error
import ZoneGuard.Graph.Build
import ZoneGuard.LocalRules
import ZoneGuard.Report
import ZoneGuard.Spec.Compile

/-!
# Analysis

From a payload to a report: the graph is compiled, an engine evaluates the specification, and its
findings join the local ones. Output that is missing, malformed or incomplete degrades the report to
the local findings; every other failure of the engine is an error.
-/

namespace ZoneGuard

open Json (Value)

/-- Why there is no report. -/
inductive AnalysisError where
  | graph (e : GraphError)
  | compile (e : CompileError)
  | engine (e : EngineError)

namespace AnalysisError

def message : AnalysisError → String
  | .graph e => e.message
  | .compile e => e.message
  | .engine e => e.message

def kind : AnalysisError → String
  | .graph _ | .compile _ => "structural"
  | .engine _ => "engine_invocation"

end AnalysisError

/-- The engine's rules that engine output has no relation for. -/
def RelationTable.missingRules (t : RelationTable) : List Rule :=
  Rule.engineRules.filter fun r => !t.contains r.key

namespace Graph

/-- The report without findings of the engine. -/
def degradedReport (g : Graph) (digest reason : String) : Report :=
  (Report.build ∅ g.localFindings digest).degraded reason

def interpret (g : Graph) (output digest : String) : Report :=
  match RelationTable.ofText output with
  | .error e => g.degradedReport digest e.message
  | .ok table =>
    match table.missingRules with
    | [] =>
      let classification := table.classify g.ids
      (Report.build classification.findings g.localFindings digest).withWarnings
        classification.warnings
    | missing =>
      g.degradedReport digest
        ("engine output lacks result fields: " ++ ", ".intercalate (missing.map (·.key)))

/-- The report on what became of an engine's run, or its error. -/
def conclude (g : Graph) (digest : String) (outcome : Except EngineError String) :
    Except EngineError Report :=
  match outcome with
  | .ok output => .ok (g.interpret output digest)
  | .error e => if e.isDegradable then .ok (g.degradedReport digest e.message) else .error e

/-- The report made without an engine. -/
def localReport (g : Graph) : Report := (Report.build ∅ g.localFindings "").skipped

/-- The report on a graph, with an engine that maps a specification to its output. -/
def analyze (g : Graph) (engine : Specification → Except EngineError String) :
    Except AnalysisError Report :=
  match g.compile with
  | .error e => .error (.compile e)
  | .ok spec =>
    match g.conclude spec.digest (engine spec) with
    | .error e => .error (.engine e)
    | .ok report => .ok report

end Graph

def analyze (payload : Value) (engine : Specification → Except EngineError String) :
    Except AnalysisError Report :=
  match Graph.ofJson payload with
  | .error e => .error (.graph e)
  | .ok g => g.analyze engine

end ZoneGuard
