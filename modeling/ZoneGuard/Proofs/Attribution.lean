import Mathlib
import ZoneGuard.Analysis
import ZoneGuard.Proofs.EngineOutput
import ZoneGuard.Proofs.Graph.WellFormed

/-!
# Findings are attributed to the right entities

Between a specification and a report an id becomes an identifier, an atom, a
label in engine output, a label without decoration, and an id again.  No step
loses what the next one needs: whatever findings an engine reports on the
entities of a graph, exactly these are in the report, under the ids that were
given.
-/

namespace ZoneGuard

open Json (Value)
open Markup (Element IsPlainValue IsWord)

/-! ## What an engine reports -/

/-- What an engine may write around the name of an atom: before it anything that
ends in a slash, such as a namespace, and behind it anything that begins with a
dollar sign, such as a number. -/
structure Decoration where
  space : String
  number : String
  space_ends : space.toList = [] ∨ space.toList.getLast? = some '/'
  space_plain : IsPlainValue space
  number_begins : number.toList = [] ∨ number.toList.head? = some '$'
  number_slash : '/' ∉ number.toList
  number_plain : IsPlainValue number

namespace Decoration

def apply (d : Decoration) (name : String) : String := d.space ++ name ++ d.number

theorem isPlainValue_apply (d : Decoration) {name : String} (h : IsPlainValue name) :
    IsPlainValue (d.apply name) := by
  obtain ⟨hquote, hampersand⟩ := h
  constructor
  · simp [apply, d.space_plain.1, hquote, d.number_plain.1]
  · simp [apply, d.space_plain.2, hampersand, d.number_plain.2]

theorem cleanLabel_apply (d : Decoration) (kind : EntityKind) (id : Identifier) :
    cleanLabel (d.apply (kind.atomLabel id)) = id.text :=
  cleanLabel_append_atomLabel kind id d.space_ends d.number_begins d.number_slash

end Decoration

/-- The atom that owns all relations. -/
def anchorName : String := resultSignature ++ "$0"

/-- A finding of a rule as an engine reports it: an entity of the rule's subject
kind, and a data asset if the rule names one. -/
structure EngineFinding (g : Graph) (r : Rule) where
  anchor : Decoration
  subject : EntityId
  subjectDecoration : Decoration
  data? : Option (EntityId × Decoration)
  subject_mem : subject ∈ g.entityIds r.arity.subject
  data?_isSome : data?.isSome = r.arity.hasData
  data?_mem : ∀ data ∈ data?, data.1 ∈ g.entityIds .data

namespace EngineFinding

variable {g : Graph} {r : Rule}

def labels (f : EngineFinding g r) : List String :=
  f.anchor.apply anchorName
    :: f.subjectDecoration.apply (r.arity.subject.atomLabel f.subject.safe)
    :: f.data?.toList.map fun data => data.2.apply (EntityKind.data.atomLabel data.1.safe)

def finding (f : EngineFinding g r) : Finding where
  subject := .ofKind r.arity.subject f.subject.raw
  data? := f.data?.map (·.1.raw)
  remediation := r.remediation

theorem isPlainValue_atomLabel (kind : EntityKind) (id : Identifier) :
    IsPlainValue (kind.atomLabel id) :=
  ⟨notMem_of_isWordChar (kind.isWordChar_of_mem_atomLabel id) (by decide),
    notMem_of_isWordChar (kind.isWordChar_of_mem_atomLabel id) (by decide)⟩

theorem isPlainValue_of_mem_labels (f : EngineFinding g r) :
    ∀ label ∈ f.labels, IsPlainValue label := by
  intro label hlabel
  rcases List.mem_cons.1 hlabel with rfl | hlabel
  · exact f.anchor.isPlainValue_apply ⟨by decide, by decide⟩
  rcases List.mem_cons.1 hlabel with rfl | hlabel
  · exact f.subjectDecoration.isPlainValue_apply (isPlainValue_atomLabel _ _)
  · obtain ⟨data, -, rfl⟩ := List.mem_map.1 hlabel
    exact data.2.isPlainValue_apply (isPlainValue_atomLabel _ _)

end EngineFinding

/-! ## Back to ids -/

/-- The identifier of an entity stands for the id that was given. -/
theorem Graph.Consistent.declaredId_text {g : Graph} (h : g.Consistent) {kind : EntityKind}
    {id : EntityId} (hid : id ∈ g.entityIds kind) (r : Rule) :
    declaredId g.ids r kind id.safe.text = (id.raw, []) := by
  have hraw : (g.ids.ofKind kind).raw? id.safe = some id.raw :=
    ((h.mirrors kind).raw_iff id.safe id.raw).2 hid
  rw [declaredId, Identifier.ofText_text, hraw]

/-- The labels of a finding are read as the finding, without a warning. -/
theorem EngineFinding.findingOfTuple?_labels {g : Graph} (h : g.Consistent) {r : Rule}
    (f : EngineFinding g r) :
    findingOfTuple? g.ids r (f.labels.map cleanLabel) = some (f.finding, []) := by
  have hsubject := h.declaredId_text f.subject_mem r
  have hisSome := f.data?_isSome
  cases hdata : f.data? with
  | none =>
      rw [hdata] at hisSome
      simp [findingOfTuple?, Finding.ofRule, labels, finding, hdata, ← hisSome,
        Decoration.cleanLabel_apply, hsubject]
  | some data =>
      rw [hdata] at hisSome
      have hdataId := h.declaredId_text (f.data?_mem data hdata) r
      simp [findingOfTuple?, Finding.ofRule, labels, finding, hdata, ← hisSome,
        Decoration.cleanLabel_apply, hsubject, hdataId]

/-! ## The document -/

/-- The relations of an engine's findings, in the given order of the rules. -/
def engineFields {g : Graph} (findings : (r : Rule) → List (EngineFinding g r))
    (order : List Rule) : List (String × List (List String)) :=
  order.map fun r => (r.key, (findings r).map EngineFinding.labels)

theorem Rule.key_injective : Function.Injective Rule.key := by
  intro r s heq
  have hkey := congrArg Rule.ofKey? heq
  rwa [Rule.ofKey?_key, Rule.ofKey?_key, Option.some.injEq] at hkey

theorem Rule.nodup_engineRules : Rule.engineRules.Nodup := by decide

theorem Rule.isPlainValue_key (r : Rule) : IsPlainValue r.key := by
  cases r <;> exact ⟨by decide +kernel, by decide +kernel⟩

section Table

variable {g : Graph} (findings : (r : Rule) → List (EngineFinding g r)) {order : List Rule}

def engineTable (order : List Rule) : RelationTable :=
  .addAll ∅ ((engineFields findings order).map fun field =>
    (field.1, field.2.map (·.map cleanLabel)))

theorem ofText_engineFields {root text : String} (hroot : IsWord root.toList)
    (hwritten : (outputElement root (engineFields findings order)).IsWritten text) :
    RelationTable.ofText text = .ok (engineTable findings order) := by
  refine RelationTable.ofText_of_isWritten hroot ?_ ?_ hwritten
  · intro field hfield
    obtain ⟨r, -, rfl⟩ := List.mem_map.1 hfield
    exact r.isPlainValue_key
  · intro field hfield labels hmem
    obtain ⟨r, -, rfl⟩ := List.mem_map.1 hfield
    obtain ⟨f, -, rfl⟩ := List.mem_map.1 hmem
    exact f.isPlainValue_of_mem_labels

theorem mem_labels_engineTable {label : String} :
    label ∈ (engineTable findings order).labels ↔ ∃ r ∈ order, r.key = label := by
  rw [engineTable, RelationTable.mem_labels_addAll]
  simp [RelationTable.labels, engineFields, EmptyCollection.emptyCollection]

/-- Each rule's relation has the tuples of its findings. -/
theorem get_engineTable (hnodup : order.Nodup) {r : Rule} (hr : r ∈ order) :
    (engineTable findings order).get r.key =
      (findings r).map fun f => f.labels.map cleanLabel := by
  apply RelationTable.get_addAll
  · have hkeys : (order.map Rule.key).Nodup := hnodup.map Rule.key_injective
    simpa [engineFields, Function.comp_def] using hkeys
  · simp [RelationTable.labels, EmptyCollection.emptyCollection]
  · simp only [engineFields, List.map_map, List.mem_map, Function.comp_def]
    exact ⟨r, hr, rfl⟩

theorem findingsOf_engineTable (h : g.Consistent) (hnodup : order.Nodup) {r : Rule}
    (hr : r ∈ order) : findingsOf g.ids (engineTable findings order) r =
      (findings r).map fun f => (f.finding, []) := by
  have hall : ∀ f ∈ findings r, (findingOfTuple? g.ids r ∘ fun f => f.labels.map cleanLabel) f =
      (some ∘ fun f => (f.finding, [])) f := fun f _ => f.findingOfTuple?_labels h
  rw [findingsOf, get_engineTable findings hnodup hr, List.filterMap_map,
    List.filterMap_congr hall, List.filterMap_eq_map]

end Table

/-! ## The report -/

theorem FindingTable.of_join (first second : FindingTable) (r : Rule) :
    (first.join second).of r = first.of r ++ second.of r := by
  rw [join, of, RuleTable.get?_ofFn _ r.mem_all, Option.getD_some]

/-- Under a rule stand the findings of the tuples under its key. -/
theorem RelationTable.of_classify (table : RelationTable) (ids : IdTables) {r : Rule}
    (hr : r ∈ Rule.engineRules) :
    (table.classify ids).findings.of r = (findingsOf ids table r).map (·.1) := by
  rw [classify, FindingTable.of, RuleTable.get?_ofFn _ hr, Option.getD_some]

theorem Rule.notMem_localRules {r : Rule} (hr : r ∈ engineRules) : r ∉ localRules := by
  have hengine : r.byEngine = true := (List.mem_filter.1 hr).2
  simp [localRules, hengine]

/-- A rule that the engine evaluates has no local findings. -/
theorem Graph.of_localFindings (g : Graph) {r : Rule} (hr : r ∈ Rule.engineRules) :
    g.localFindings.of r = [] := by
  rw [FindingTable.of, localFindings, RuleTable.get?_ofFn_of_notMem _ (Rule.notMem_localRules hr),
    Option.getD_none]

section Report

variable {g : Graph} (findings : (r : Rule) → List (EngineFinding g r)) {order : List Rule}

/-- An engine that reports on all rules leaves none out. -/
theorem missingRules_engineTable (horder : order.Perm Rule.engineRules) :
    (engineTable findings order).missingRules = [] := by
  rw [RelationTable.missingRules, List.filter_eq_nil_iff]
  intro r hr
  have hmem := (mem_labels_engineTable findings).2 ⟨r, horder.mem_iff.2 hr, rfl⟩
  simp [RelationTable.contains, hmem]

/-- All labels are keys of the engine's rules, and all atoms are of entities. -/
theorem warnings_classify_engineTable (h : g.Consistent)
    (horder : order.Perm Rule.engineRules) :
    ((engineTable findings order).classify g.ids).warnings = [] := by
  rw [RelationTable.classify, List.append_eq_nil_iff]
  constructor
  · rw [List.filterMap_eq_nil_iff]
    intro label hlabel
    obtain ⟨r, hr, rfl⟩ := (mem_labels_engineTable findings).1 hlabel
    have hengine : r.byEngine = true := (List.mem_filter.1 (horder.mem_iff.1 hr)).2
    simp [labelWarning?, Rule.ofKey?_key, hengine]
  · rw [List.flatMap_eq_nil_iff]
    intro r hr
    rw [findingsOf_engineTable findings h (horder.nodup_iff.2 Rule.nodup_engineRules)
      (horder.mem_iff.2 hr)]
    simp

end Report

namespace Graph

/-- Whatever findings an engine reports on the entities of a graph, in whatever
order of the rules, the report has exactly these findings, in their order and
under the ids that were given, and nothing to warn about. -/
theorem interpret_findings_of_isWritten {v : Value} {g : Graph} (hg : ofJson v = .ok g)
    (findings : (r : Rule) → List (EngineFinding g r)) {order : List Rule}
    (horder : order.Perm Rule.engineRules) {root text : String} (hroot : IsWord root.toList)
    (hwritten : (outputElement root (engineFields findings order)).IsWritten text)
    (digest : String) :
    (g.interpret text digest).status = .complete ∧ (g.interpret text digest).warnings = [] ∧
      ∀ r ∈ Rule.engineRules,
        (g.interpret text digest).findings.of r = (findings r).map EngineFinding.finding := by
  have hconsistent := consistent_of_ofJson hg
  have hnodup : order.Nodup := horder.nodup_iff.2 Rule.nodup_engineRules
  have hinterpret : g.interpret text digest =
      (Report.build ((engineTable findings order).classify g.ids).findings g.localFindings
        digest).withWarnings [] := by
    rw [interpret, ofText_engineFields findings hroot hwritten]
    simp only [missingRules_engineTable findings horder,
      warnings_classify_engineTable findings hconsistent horder]
  rw [hinterpret]
  refine ⟨rfl, rfl, fun r hr => ?_⟩
  calc (((engineTable findings order).classify g.ids).findings.join g.localFindings).of r
    _ = ((engineTable findings order).classify g.ids).findings.of r ++ g.localFindings.of r :=
      FindingTable.of_join _ _ r
    _ = (findingsOf g.ids (engineTable findings order) r).map (·.1) := by
      rw [of_localFindings g hr, List.append_nil, RelationTable.of_classify _ _ hr]
    _ = (findings r).map EngineFinding.finding := by
      rw [findingsOf_engineTable findings hconsistent hnodup (horder.mem_iff.2 hr), List.map_map]
      rfl

/-- A zone, a data asset and a system, none of whose ids is an identifier. -/
def spacedPayload : Value :=
  .object
    [("data", .array [.object [("id", .string "d.1")]]),
     ("locations", .array [.object [("id", .string "zone a")]]),
     ("systems", .array
      [.object [("id", .string "web 01"), ("location", .string "zone a")]])]

/-- The namespace and the number that an engine commonly writes. -/
def commonDecoration : Decoration where
  space := "this/"
  number := "$0"
  space_ends := by decide
  space_plain := ⟨by decide, by decide⟩
  number_begins := by decide
  number_slash := by decide
  number_plain := ⟨by decide, by decide⟩

theorem interpret_findings_of_isWritten_spacedPayload :
    ∃ (g : Graph) (text : String), ofJson spacedPayload = .ok g ∧
      (g.interpret text "").status = .complete ∧ (g.interpret text "").warnings = [] ∧
      (g.interpret text "").findings.of .storageViolations =
        [.ofRule .storageViolations (.system "web 01") (some "d.1")] := by
  have hread : (ofJson spacedPayload).toOption.map (fun g =>
      (g.entityIds .system, g.entityIds .data)) =
        some ([⟨"web 01", .ofText "web 01"⟩], [⟨"d.1", .ofText "d.1"⟩]) := by decide +kernel
  obtain ⟨g, hg, hids⟩ := Option.map_eq_some_iff.1 hread
  obtain ⟨hsystems, hdata⟩ := Prod.mk.inj hids
  have hok := except_toOption_eq_some_iff.1 hg
  let finding : EngineFinding g .storageViolations :=
    { anchor := commonDecoration
      subject := ⟨"web 01", .ofText "web 01"⟩
      subjectDecoration := commonDecoration
      data? := some (⟨"d.1", .ofText "d.1"⟩, commonDecoration)
      subject_mem := by simp [Rule.arity, Arity.subject, hsystems]
      data?_isSome := rfl
      data?_mem := by simp [hdata] }
  let findings : (r : Rule) → List (EngineFinding g r)
    | .storageViolations => [finding]
    | _ => []
  have hresult := interpret_findings_of_isWritten hok findings (List.Perm.refl _)
    (show IsWord "alloy".toList by decide +kernel) (Element.isWritten_write _) ""
  exact ⟨g, _, hok, hresult.1, hresult.2.1, hresult.2.2 .storageViolations (by decide)⟩

end Graph

end ZoneGuard
