import Mathlib
import ZoneGuard.Proofs.Classification
import ZoneGuard.Proofs.Group

/-!
# How far engine output reaches

Two engines that run on one graph can make two reports differ only under the
rules that engines evaluate, and only through the relations of these rules.
What is under a local rule comes from the graph alone; no two systems of a graph
share an id, so each of these findings is a group of its own.
-/

namespace ZoneGuard

open Json (Value)
open Markup (Element IsWord)

/-! ## Local rules -/

/-- If no two findings are alike, each group has one member. -/
theorem Group.IsPartition.length_members {fs : List Finding} {gs : List Group}
    (h : IsPartition fs gs) (hnodup : (fs.map Finding.key).Nodup) :
    ∀ g ∈ gs, g.members.length = 1 := by
  intro g hg
  obtain ⟨i, hfirst, hi⟩ := h.primary g hg
  obtain ⟨others, hmembers⟩ := List.head?_eq_some_iff.1 hfirst
  have hnone : others = [] := by
    rw [List.eq_nil_iff_forall_not_mem]
    intro j hj
    have hlt : i < j := List.rel_of_pairwise_cons (hmembers ▸ h.increasing g hg) hj
    have hjmem : j ∈ g.members := hmembers ▸ List.mem_cons_of_mem i hj
    obtain ⟨f, hf⟩ : ∃ f, fs[j]? = some f :=
      ⟨_, List.getElem?_eq_getElem ((h.mem_iff j).1 ⟨g, hg, hjmem⟩)⟩
    have hkey : g.primary.key = f.key := Finding.key_eq_iff.2
      ((h.together_iff i j _ _ hi hf).1 ⟨g, hg, List.mem_of_head? hfirst, hjmem⟩)
    have hsame : (fs.map Finding.key)[i]? = (fs.map Finding.key)[j]? := by
      rw [List.getElem?_map, List.getElem?_map, hi, hf, Option.map_some, Option.map_some, hkey]
    have hbound : i < (fs.map Finding.key).length := by
      rw [List.length_map]
      exact (List.getElem?_eq_some_iff.1 hi).1
    exact hlt.ne ((List.getElem?_inj hbound hnodup).1 hsame)
  rw [hmembers, hnone, List.length_singleton]

/-- Systems have ids of their own, so no two findings of a local rule are alike. -/
theorem Graph.Consistent.nodup_keys_localFindings {g : Graph} (h : g.Consistent) {r : Rule}
    (hr : r ∈ Rule.localRules) : ((g.localFindings.of r).map Finding.key).Nodup := by
  have hfindings : g.localFindings.of r =
      (g.systems.filter (g.violates · r)).map fun s => .ofRule r (.system s.id.raw) none := by
    rw [FindingTable.of, localFindings, RuleTable.get?_ofFn _ hr, Option.getD_some]
  have hids : ((g.systems.filter (g.violates · r)).map (·.id.raw)).Nodup := by
    have hall := (h.mirrors .system).nodup_raw
    rw [entityIds, List.map_map] at hall
    exact hall.sublist (List.filter_sublist.map _)
  rw [hfindings, List.map_map]
  exact List.Nodup.of_map (fun key : Subject × String => key.1.id) (by
    rw [List.map_map]
    exact hids)

/-- What a report says under the local rules is what the graph says. -/
structure Report.HasLocalPart (g : Graph) (report : Report) : Prop where
  findings : ∀ r ∈ Rule.localRules, report.findings.get? r = g.localFindings.get? r
  groups : ∀ r ∈ Rule.localRules,
    report.groups.get? r = some (Group.ofFindings (g.localFindings.of r))
  single : ∀ r ∈ Rule.localRules, ∀ gs, report.groups.get? r = some gs →
    ∀ group ∈ gs, group.members.length = 1

theorem Graph.Consistent.hasLocalPart {g : Graph} (h : g.Consistent) {engine : FindingTable}
    (hengine : ∀ r ∈ Rule.localRules, engine.of r = []) {report : Report}
    (hfindings : report.findings = engine.join g.localFindings)
    (hgroups : report.groups = .merge engine g.localFindings) : report.HasLocalPart g := by
  have hget : ∀ r ∈ Rule.localRules,
      report.groups.get? r = some (Group.ofFindings (g.localFindings.of r)) := by
    intro r hr
    rw [hgroups, GroupTable.get?_merge, hengine r hr, List.nil_append]
  refine ⟨fun r hr => ?_, hget, fun r hr gs hgs => ?_⟩
  · have hlocal : g.localFindings.get? r = some (g.localFindings.of r) := by
      rw [FindingTable.of, localFindings, RuleTable.get?_ofFn _ hr, Option.getD_some]
    rw [hfindings, FindingTable.join, RuleTable.get?_ofFn _ r.mem_all, hengine r hr,
      List.nil_append, hlocal]
  · obtain rfl := Option.some.inj ((hget r hr).symm.trans hgs)
    exact (Group.isPartition_ofFindings _).length_members (h.nodup_keys_localFindings hr)

theorem Rule.notMem_engineRules {r : Rule} (hr : r ∈ localRules) : r ∉ engineRules :=
  fun hengine => notMem_localRules hengine hr

/-- Classification finds nothing under a local rule, whatever the relations are
called. -/
theorem RelationTable.of_classify_eq_nil (t : RelationTable) (ids : IdTables) {r : Rule}
    (hr : r ∈ Rule.localRules) : (t.classify ids).findings.of r = [] := by
  rw [FindingTable.of, classify, RuleTable.get?_ofFn_of_notMem _ (Rule.notMem_engineRules hr),
    Option.getD_none]

/-- Whatever the output, the report has the local findings of the graph. -/
theorem Graph.Consistent.hasLocalPart_interpret {g : Graph} (h : g.Consistent)
    (output digest : String) : (g.interpret output digest).HasLocalPart g := by
  by_cases hlacks : LacksFindings (.ok output)
  · obtain ⟨reason, hreason⟩ := g.interpret_of_lacksFindings hlacks digest
    rw [hreason]
    exact h.hasLocalPart (fun r _ => FindingTable.of_empty r) rfl rfl
  · obtain ⟨t, ht, hmissing⟩ := not_lacksFindings_iff.1 hlacks
    rw [g.interpret_of_missingRules_eq_nil ht hmissing]
    exact h.hasLocalPart (fun r hr => t.of_classify_eq_nil g.ids hr) rfl rfl

/-! ## Rules of engines -/

/-- Whether the warning is about an atom, and not about a label. -/
def Warning.isAboutAtom : Warning → Bool
  | .unknownAtom .. => true
  | .unknownRule _ | .localRule _ => false

theorem filter_isAboutAtom_labelWarnings (labels : List String) :
    (labels.filterMap labelWarning?).filter Warning.isAboutAtom = [] := by
  rw [List.filter_eq_nil_iff]
  intro w hw
  obtain ⟨label, -, hlabel⟩ := List.mem_filterMap.1 hw
  rcases labelWarning?_eq_some_iff.1 hlabel with ⟨r, -, -, rfl⟩ | ⟨-, -, rfl⟩
  · exact Bool.false_ne_true
  · exact Bool.false_ne_true

/-- The tables have relations for all rules of engines, with the same tuples. -/
structure RelationTable.AgreeOnEngineRules (t t' : RelationTable) : Prop where
  contains_left : ∀ r ∈ Rule.engineRules, t.contains r.key = true
  contains_right : ∀ r ∈ Rule.engineRules, t'.contains r.key = true
  get_eq : ∀ r ∈ Rule.engineRules, t.get r.key = t'.get r.key

theorem RelationTable.missingRules_eq_nil {t : RelationTable}
    (h : ∀ r ∈ Rule.engineRules, t.contains r.key = true) : t.missingRules = [] := by
  rw [missingRules, List.filter_eq_nil_iff]
  intro r hr
  simp [h r hr]

namespace RelationTable.AgreeOnEngineRules

variable {t t' : RelationTable}

theorem findingsOf_eq (h : AgreeOnEngineRules t t') (ids : IdTables) {r : Rule}
    (hr : r ∈ Rule.engineRules) : findingsOf ids t r = findingsOf ids t' r := by
  rw [findingsOf, findingsOf, h.get_eq r hr]

/-- Tables that agree on the engine's rules have the same findings. -/
theorem findings_eq (h : AgreeOnEngineRules t t') (ids : IdTables) :
    (t.classify ids).findings = (t'.classify ids).findings := by
  rw [classify, classify]
  refine congrArg RuleTable.mk (List.map_congr_left fun r hr => ?_)
  simp only [h.findingsOf_eq ids hr]

/-- Tables that agree on the engine's rules have the same warnings about atoms. -/
theorem atomWarnings_eq (h : AgreeOnEngineRules t t') (ids : IdTables) :
    (t.classify ids).warnings.filter Warning.isAboutAtom =
      (t'.classify ids).warnings.filter Warning.isAboutAtom := by
  rw [classify, classify, List.filter_append, List.filter_append,
    filter_isAboutAtom_labelWarnings, filter_isAboutAtom_labelWarnings]
  congr 2
  exact List.flatMap_congr fun r hr => by rw [h.findingsOf_eq ids hr]

end RelationTable.AgreeOnEngineRules

/-- The reports say the same but for warnings about labels. -/
structure Report.SameButLabels (report report' : Report) : Prop where
  status : report.status = report'.status
  findings : report.findings = report'.findings
  groups : report.groups = report'.groups
  findingCount : report.findingCount = report'.findingCount
  groupCount : report.groupCount = report'.groupCount
  atomWarnings : report.warnings.filter Warning.isAboutAtom =
    report'.warnings.filter Warning.isAboutAtom

/-- The reports on such tables differ in warnings about labels only. -/
theorem Graph.sameButLabels_interpret (g : Graph) {output output' : String} {t t' : RelationTable}
    (ht : RelationTable.ofText output = .ok t) (ht' : RelationTable.ofText output' = .ok t')
    (h : t.AgreeOnEngineRules t') (digest digest' : String) :
    (g.interpret output digest).SameButLabels (g.interpret output' digest') := by
  rw [g.interpret_of_missingRules_eq_nil ht (RelationTable.missingRules_eq_nil h.contains_left),
    g.interpret_of_missingRules_eq_nil ht' (RelationTable.missingRules_eq_nil h.contains_right)]
  have hfindings : (g.classifiedReport t digest).findings =
      (g.classifiedReport t' digest').findings :=
    congrArg (·.join g.localFindings) (h.findings_eq g.ids)
  have hgroups : (g.classifiedReport t digest).groups = (g.classifiedReport t' digest').groups :=
    congrArg (GroupTable.merge · g.localFindings) (h.findings_eq g.ids)
  refine ⟨rfl, hfindings, hgroups, ?_, ?_, h.atomWarnings_eq g.ids⟩
  · rw [Report.findingCount, Report.findingCount, hfindings]
  · rw [Report.groupCount, Report.groupCount, hgroups]

/-! ## Two outputs -/

namespace Graph

/-- No engine output reaches what a report says under a local rule, and nothing
but the relations of the engine's rules reaches the rest of it, warnings about
labels apart. -/
theorem interpret_noninterference {v : Value} {g : Graph} (hg : ofJson v = .ok g) :
    (∀ output output' digest digest' : String,
      (g.interpret output digest).HasLocalPart g ∧
        ∀ r ∈ Rule.localRules,
          (g.interpret output digest).findings.get? r =
              (g.interpret output' digest').findings.get? r ∧
            (g.interpret output digest).groups.get? r =
              (g.interpret output' digest').groups.get? r) ∧
      ∀ (output output' digest digest' : String) (t t' : RelationTable),
        RelationTable.ofText output = .ok t → RelationTable.ofText output' = .ok t' →
        t.AgreeOnEngineRules t' →
        (g.interpret output digest).SameButLabels (g.interpret output' digest') := by
  have hconsistent := consistent_of_ofJson hg
  constructor
  · intro output output' digest digest'
    have hpart := hconsistent.hasLocalPart_interpret output digest
    have hpart' := hconsistent.hasLocalPart_interpret output' digest'
    refine ⟨hpart, fun r hr => ⟨?_, ?_⟩⟩
    · rw [hpart.findings r hr, hpart'.findings r hr]
    · rw [hpart.groups r hr, hpart'.groups r hr]
  · intro output output' digest digest' t t' ht ht' hagree
    exact g.sameButLabels_interpret ht ht' hagree digest digest'

/-- Two systems that are not registered. -/
def unregisteredPayload : Value :=
  .object
    [("locations", .array [.object [("id", .string "z")]]),
     ("systems", .array
      [.object [("id", .string "a"), ("isRegistered", .bool false), ("location", .string "z")],
       .object [("id", .string "b"), ("isRegistered", .bool false), ("location", .string "z")]])]

/-- Relations of all rules of engines, one of them with an atom of no entity. -/
def ghostRelations : List (String × List (List String)) :=
  Rule.engineRules.map fun r => (r.key, if r = .wirelessExposure then [["r$0", "ghost"]] else [])

/-- Relations of a local rule, of no rule and of the specification. -/
def strayRelations : List (String × List (List String)) :=
  [("FindShadowIT", [["r$0", "a"], ["r$0", "c"]]), ("FindMore", []), ("grade", [["a", "Open"]])]

theorem interpret_noninterference_unregistered :
    ∃ g t t', ofJson unregisteredPayload = .ok g ∧
      RelationTable.ofText (outputElement "r" ghostRelations).write = .ok t ∧
      RelationTable.ofText (outputElement "r" (strayRelations ++ ghostRelations)).write = .ok t' ∧
      t.AgreeOnEngineRules t' ∧ t.labels ≠ t'.labels ∧
      (g.localFindings.of .shadowAsset).length = 2 ∧
      (g.interpret (outputElement "r" ghostRelations).write "").HasLocalPart g ∧
      (g.interpret (outputElement "r" ghostRelations).write "").SameButLabels
        (g.interpret (outputElement "r" (strayRelations ++ ghostRelations)).write "") := by
  have hread : (ofJson unregisteredPayload).toOption.map (fun g =>
      (g.localFindings.of .shadowAsset).length) = some 2 := by decide +kernel
  obtain ⟨g, hg, hlength⟩ := Option.map_eq_some_iff.1 hread
  have hok := except_toOption_eq_some_iff.1 hg
  have hroot : IsWord "r".toList := by decide +kernel
  have ht := RelationTable.ofText_of_isWritten hroot (by decide +kernel) (by decide +kernel)
    (Element.isWritten_write (outputElement "r" ghostRelations))
  have ht' := RelationTable.ofText_of_isWritten hroot (by decide +kernel) (by decide +kernel)
    (Element.isWritten_write (outputElement "r" (strayRelations ++ ghostRelations)))
  obtain ⟨hpart, hsame⟩ := interpret_noninterference hok
  refine ⟨g, _, _, hok, ht, ht', ?_, by decide +kernel, hlength, (hpart _ "" "" "").1,
    hsame _ _ "" "" _ _ ht ht' ?_⟩
  all_goals exact ⟨by decide +kernel, by decide +kernel, by decide +kernel⟩

end Graph

end ZoneGuard
