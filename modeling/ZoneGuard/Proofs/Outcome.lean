import Mathlib
import ZoneGuard.Proofs.Attribution
import ZoneGuard.Proofs.Markup.Truncation
import ZoneGuard.Proofs.RelationTable

/-!
# The outcome of an analysis

What comes of a payload and an engine, over all payloads and all ways in which an
engine can end.  A graph that was read compiles, so an analysis fails only with
the payload or with the engine.  Where the engine leaves no findings to take, the
report is the one made without it.  Output that was cut short is among these
cases, unless nothing of it was lost: it is never taken for the output of an
engine that found less.
-/

namespace ZoneGuard

open Json (Value)
open Markup (Element)

/-! ## Output without findings -/

/-- What an engine's run left when no findings can be taken from it: no output, or
output that is no document, or a document without the relation of some rule. -/
inductive LacksFindings : Except EngineError String → Prop
  | missing (place : String) : LacksFindings (.error (.missingOutput place))
  | malformed {output : String} {e : DecodeError} (h : RelationTable.ofText output = .error e) :
      LacksFindings (.ok output)
  | incomplete {output : String} {t : RelationTable} {r : Rule}
      (h : RelationTable.ofText output = .ok t) (hr : r ∈ Rule.engineRules)
      (hlacks : r.key ∉ t.labels) : LacksFindings (.ok output)

/-- Only output that is missing leaves a report to be made. -/
theorem EngineError.isDegradable_iff {e : EngineError} :
    e.isDegradable = true ↔ ∃ place, e = .missingOutput place := by
  cases e <;> simp [isDegradable]

theorem RelationTable.mem_missingRules_iff {t : RelationTable} {r : Rule} :
    r ∈ t.missingRules ↔ r ∈ Rule.engineRules ∧ r.key ∉ t.labels := by
  simp [missingRules, contains]

/-- Output has findings exactly if it is a document with all relations. -/
theorem not_lacksFindings_iff {output : String} : ¬ LacksFindings (.ok output) ↔
    ∃ t, RelationTable.ofText output = .ok t ∧ t.missingRules = [] := by
  constructor
  · intro hnone
    cases ht : RelationTable.ofText output with
    | error e => exact absurd (.malformed ht) hnone
    | ok t =>
        refine ⟨t, rfl, List.eq_nil_iff_forall_not_mem.2 fun r hr => ?_⟩
        obtain ⟨hengine, hlacks⟩ := RelationTable.mem_missingRules_iff.1 hr
        exact hnone (.incomplete ht hengine hlacks)
  · rintro ⟨t, ht, hmissing⟩ hlacks
    cases hlacks with
    | malformed h => cases ht.symm.trans h
    | incomplete h hr hlacks =>
        cases ht.symm.trans h
        exact List.not_mem_nil (hmissing ▸ RelationTable.mem_missingRules_iff.2 ⟨hr, hlacks⟩)

namespace Graph

def classifiedReport (g : Graph) (t : RelationTable) (digest : String) : Report :=
  (Report.build (t.classify g.ids).findings g.localFindings digest).withWarnings
    (t.classify g.ids).warnings

/-- Output that lacks nothing is reported on by its relations. -/
theorem interpret_of_missingRules_eq_nil (g : Graph) {output : String} {t : RelationTable}
    (ht : RelationTable.ofText output = .ok t) (hmissing : t.missingRules = [])
    (digest : String) : g.interpret output digest = g.classifiedReport t digest := by
  simp only [interpret, ht, hmissing, classifiedReport]

/-- Output that lacks findings leaves a degraded report. -/
theorem interpret_of_lacksFindings (g : Graph) {output : String}
    (h : LacksFindings (.ok output)) (digest : String) :
    ∃ reason, g.interpret output digest = g.degradedReport digest reason := by
  cases h with
  | malformed ht =>
      simp only [interpret, ht]
      exact ⟨_, rfl⟩
  | @incomplete _ t _ ht hr hlacks =>
      have hmem := RelationTable.mem_missingRules_iff.2 ⟨hr, hlacks⟩
      cases hmissing : t.missingRules with
      | nil => exact absurd (hmissing ▸ hmem) List.not_mem_nil
      | cons =>
          simp only [interpret, ht, hmissing]
          exact ⟨_, rfl⟩

end Graph

/-! ## Output that was cut short -/

theorem RelationTable.ofText_of_prefix {cut output : String}
    (hbegin : cut.toList <+: output.toList) {t : RelationTable} (h : ofText output = .ok t) :
    (∃ e, ofText cut = .error e) ∨ ofText cut = .ok t := by
  cases hcut : ofText cut with
  | error e => exact Or.inl ⟨e, rfl⟩
  | ok t' =>
      obtain ⟨root, hroot, rfl⟩ := ofText_eq_ok_iff.1 h
      obtain ⟨cutRoot, hcutRoot, rfl⟩ := ofText_eq_ok_iff.1 hcut
      rw [Element.ofText_eq_of_prefix hbegin hcutRoot hroot]
      exact Or.inr rfl

/-- The beginning of a document either does not decode or has all its relations, so
that the report on it is without findings of the engine or is that on the whole. -/
theorem RelationTable.ofText_and_interpret_of_prefix {cut output : String}
    (hbegin : cut.toList <+: output.toList) {t : RelationTable} (h : ofText output = .ok t) :
    ((∃ e, ofText cut = .error e) ∨ ofText cut = .ok t) ∧
      ∀ (g : Graph) (digest : String),
        (∃ reason, g.interpret cut digest = g.degradedReport digest reason) ∨
          g.interpret cut digest = g.interpret output digest := by
  have hcut := ofText_of_prefix hbegin h
  refine ⟨hcut, fun g digest => ?_⟩
  rcases hcut with ⟨e, he⟩ | hsame
  · exact Or.inl (g.interpret_of_lacksFindings (.malformed he) digest)
  · exact Or.inr (by rw [Graph.interpret, Graph.interpret, hsame, h])

/-- A document that is cut inside its last tag, and still read. -/
theorem RelationTable.ofText_and_interpret_of_prefix_unclosedTag :
    "<field label='F'></field".toList <+: "<field label='F'></field >".toList ∧
      ofText "<field label='F'></field >" = .ok ⟨[("F", [])]⟩ ∧
      ((∃ e, ofText "<field label='F'></field" = .error e) ∨
        ofText "<field label='F'></field" = .ok ⟨[("F", [])]⟩) ∧
      ∀ (g : Graph) (digest : String),
        (∃ reason, g.interpret "<field label='F'></field" digest =
          g.degradedReport digest reason) ∨
          g.interpret "<field label='F'></field" digest =
            g.interpret "<field label='F'></field >" digest := by
  have hbegin : "<field label='F'></field".toList <+: "<field label='F'></field >".toList := by
    decide +kernel
  have hread : ofText "<field label='F'></field >" = .ok ⟨[("F", [])]⟩ := by decide +kernel
  exact ⟨hbegin, hread, ofText_and_interpret_of_prefix hbegin hread⟩

/-! ## The report -/

/-- What a report says of an engine's run.  Without findings to take, it is the local
report but for its status, its reason and its digest. -/
structure IsReportOn (g : Graph) (digest : String) (run : Except EngineError String)
    (report : Report) : Prop where
  digest_eq : report.digest = digest
  degraded_iff : report.status = .degraded ↔ LacksFindings run
  of_lacksFindings : LacksFindings run →
    report.findings = g.localReport.findings ∧ report.groups = g.localReport.groups ∧
      report.findingCount = g.localReport.findingCount ∧
      report.groupCount = g.localReport.groupCount ∧
      report.warnings = [] ∧ report.degradedReason?.isSome
  of_not_lacksFindings : ¬ LacksFindings run →
    report.status = .complete ∧ report.degradedReason? = none
  /-- A complete report has what classification makes of the output. -/
  of_complete : report.status = .complete → ∃ output t, run = .ok output ∧
    RelationTable.ofText output = .ok t ∧ report.warnings = (t.classify g.ids).warnings ∧
    ∀ r, report.findings.of r = (t.classify g.ids).findings.of r ++ g.localFindings.of r
  /-- A degraded report has nothing under the rules of the engine. -/
  of_degraded : report.status = .degraded → ∀ r ∈ Rule.engineRules,
    report.findings.of r = [] ∧ report.groups.get? r = some []

theorem FindingTable.of_empty (r : Rule) : FindingTable.of ∅ r = [] := rfl

/-- Under a rule stand the groups of the findings of both tables. -/
theorem GroupTable.get?_merge (first second : FindingTable) (r : Rule) :
    (merge first second).get? r = some (Group.ofFindings (first.of r ++ second.of r)) :=
  RuleTable.get?_ofFn _ r.mem_all

namespace Graph

theorem isReportOn_degradedReport (g : Graph) {run : Except EngineError String}
    (h : LacksFindings run) (digest reason : String) :
    IsReportOn g digest run (g.degradedReport digest reason) where
  digest_eq := rfl
  degraded_iff := iff_of_true rfl h
  of_lacksFindings _ := ⟨rfl, rfl, rfl, rfl, rfl, rfl⟩
  of_not_lacksFindings hnot := absurd h hnot
  of_complete hstatus := EngineStatus.noConfusion hstatus
  of_degraded _ r hr := by
    have hnone : FindingTable.of ∅ r ++ g.localFindings.of r = [] := by
      rw [FindingTable.of_empty, g.of_localFindings hr, List.append_nil]
    constructor
    · exact (FindingTable.of_join _ _ r).trans hnone
    · exact (GroupTable.get?_merge _ _ r).trans (by rw [hnone]; rfl)

theorem isReportOn_classifiedReport (g : Graph) {output : String} {t : RelationTable}
    (ht : RelationTable.ofText output = .ok t) (h : ¬ LacksFindings (.ok output))
    (digest : String) : IsReportOn g digest (.ok output) (g.classifiedReport t digest) where
  digest_eq := rfl
  degraded_iff := iff_of_false EngineStatus.noConfusion h
  of_lacksFindings hlacks := absurd hlacks h
  of_not_lacksFindings _ := ⟨rfl, rfl⟩
  of_complete _ := ⟨output, t, rfl, ht, rfl, FindingTable.of_join _ _⟩
  of_degraded hstatus := EngineStatus.noConfusion hstatus

/-- What output is interpreted to is a report on it, degraded or not. -/
theorem isReportOn_interpret (g : Graph) (output digest : String) :
    IsReportOn g digest (.ok output) (g.interpret output digest) := by
  by_cases hlacks : LacksFindings (.ok output)
  · obtain ⟨reason, hreason⟩ := g.interpret_of_lacksFindings hlacks digest
    rw [hreason]
    exact g.isReportOn_degradedReport hlacks digest reason
  · obtain ⟨t, ht, hmissing⟩ := not_lacksFindings_iff.1 hlacks
    rw [g.interpret_of_missingRules_eq_nil ht hmissing]
    exact g.isReportOn_classifiedReport ht hlacks digest

/-- There is a report on a run unless it failed otherwise than without output. -/
theorem conclude_cases (g : Graph) (digest : String) (run : Except EngineError String) :
    (∃ report, g.conclude digest run = .ok report ∧ IsReportOn g digest run report ∧
      ∀ e, run = .error e → ∃ place, e = .missingOutput place) ∨
    ∃ e, run = .error e ∧ (∀ place, e ≠ .missingOutput place) ∧
      g.conclude digest run = .error e := by
  cases run with
  | ok output => exact Or.inl ⟨_, rfl, g.isReportOn_interpret output digest, nofun⟩
  | error e =>
      rw [conclude]
      by_cases hdegradable : e.isDegradable = true
      · obtain ⟨place, rfl⟩ := EngineError.isDegradable_iff.1 hdegradable
        refine Or.inl ⟨_, rfl, g.isReportOn_degradedReport (.missing place) _ _, ?_⟩
        rintro _ ⟨⟩
        exact ⟨place, rfl⟩
      · refine Or.inr ⟨e, rfl, fun place heq => ?_, if_neg hdegradable⟩
        exact hdegradable (EngineError.isDegradable_iff.2 ⟨place, heq⟩)

end Graph

/-! ## The analysis -/

/-- The outcome of an analysis: which errors it has and when, and what the report is
on otherwise. -/
structure IsOutcome (payload : Value) (engine : Specification → Except EngineError String)
    (outcome : Except AnalysisError Report) : Prop where
  graph_iff : ∀ e, outcome = .error (.graph e) ↔ Graph.ofJson payload = .error e
  compile_ne : ∀ e, outcome ≠ .error (.compile e)
  engine_iff : ∀ e, outcome = .error (.engine e) ↔
    ∃ g spec, Graph.ofJson payload = .ok g ∧ g.compile = .ok spec ∧ engine spec = .error e ∧
      ∀ place, e ≠ .missingOutput place
  report : ∀ g, Graph.ofJson payload = .ok g → ∃ spec, g.compile = .ok spec ∧
    ((∀ e, engine spec = .error e → ∃ place, e = .missingOutput place) →
      ∃ report, outcome = .ok report ∧ IsReportOn g spec.digest (engine spec) report)

section Outcome

variable {payload : Value} {engine : Specification → Except EngineError String} {g : Graph}
  {spec : Specification}

theorem isOutcome_of_rejected {e : GraphError} (h : Graph.ofJson payload = .error e) :
    IsOutcome payload engine (.error (.graph e)) where
  graph_iff e' := by simp [h]
  compile_ne _ := nofun
  engine_iff e' := by simp [h]
  report g hg := by cases h.symm.trans hg

/-- An engine that fails otherwise than by missing output has its error as the outcome.
-/
theorem isOutcome_of_engineError (hg : Graph.ofJson payload = .ok g)
    (hspec : g.compile = .ok spec) {e : EngineError} (hrun : engine spec = .error e)
    (hnot : ∀ place, e ≠ .missingOutput place) :
    IsOutcome payload engine (.error (.engine e)) where
  graph_iff e' := by simp [hg]
  compile_ne _ := nofun
  engine_iff e' := by
    constructor
    · rintro ⟨⟩
      exact ⟨g, spec, hg, hspec, hrun, hnot⟩
    · rintro ⟨g', spec', hg', hspec', hrun', -⟩
      cases hg.symm.trans hg'
      cases hspec.symm.trans hspec'
      cases hrun.symm.trans hrun'
      rfl
  report g' hg' := by
    cases hg.symm.trans hg'
    refine ⟨spec, hspec, fun hmissing => ?_⟩
    obtain ⟨place, hplace⟩ := hmissing e hrun
    exact absurd hplace (hnot place)

theorem isOutcome_of_report (hg : Graph.ofJson payload = .ok g) (hspec : g.compile = .ok spec)
    {report : Report} (hreport : IsReportOn g spec.digest (engine spec) report)
    (hrun : ∀ e, engine spec = .error e → ∃ place, e = .missingOutput place) :
    IsOutcome payload engine (.ok report) where
  graph_iff e' := by simp [hg]
  compile_ne _ := nofun
  engine_iff e' := by
    refine iff_of_false nofun ?_
    rintro ⟨g', spec', hg', hspec', hrun', hnot⟩
    cases hg.symm.trans hg'
    cases hspec.symm.trans hspec'
    obtain ⟨place, hplace⟩ := hrun e' hrun'
    exact hnot place hplace
  report g' hg' := by
    cases hg.symm.trans hg'
    exact ⟨spec, hspec, fun _ => ⟨report, rfl, hreport⟩⟩

end Outcome

/-- An analysis ends with the error of the payload, or else with the error of the
engine, or else with the report on what the engine left. -/
theorem isOutcome_analyze (payload : Value)
    (engine : Specification → Except EngineError String) :
    IsOutcome payload engine (analyze payload engine) := by
  cases hg : Graph.ofJson payload with
  | error e =>
      rw [analyze, hg]
      exact isOutcome_of_rejected hg
  | ok g =>
      obtain ⟨spec, hspec⟩ : ∃ spec, g.compile = .ok spec :=
        ⟨_, (Graph.consistent_of_ofJson hg).compile_eq_ok⟩
      simp only [analyze, hg, Graph.analyze, hspec]
      rcases g.conclude_cases spec.digest (engine spec) with
        ⟨report, hconclude, hreport, hrun⟩ | ⟨e, hrun, hnot, hconclude⟩
      · rw [hconclude]
        exact isOutcome_of_report hg hspec hreport hrun
      · rw [hconclude]
        exact isOutcome_of_engineError hg hspec hrun hnot

end ZoneGuard
