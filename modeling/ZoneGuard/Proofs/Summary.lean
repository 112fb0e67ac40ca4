import Mathlib
import ZoneGuard.Proofs.Classification
import ZoneGuard.Proofs.Summary.Layout

/-!
# Summaries of reports on engine output

What is spliced into the summary of a report comes from outside: ids from the payload,
atoms and labels from the output of the engine.  For these the layout of the summary is
settled: it is kept unless one of them has a line feed.  Advice, keys and digests never
have one.
-/

namespace ZoneGuard

open Json (Value)
open Text (IsLine isLine_append)

/-! ## Where the texts come from -/

def Graph.rawIds (g : Graph) : List String :=
  EntityKind.all.flatMap fun kind => (g.entityIds kind).map (·.raw)

/-- The labels of all relations, and the atoms of their tuples. -/
def RelationTable.texts (t : RelationTable) : List String :=
  t.labels ++ t.relations.flatMap fun relation => relation.2.flatten

/-- The texts that a finding gives to the line of its group. -/
def Finding.texts (f : Finding) : List String := f.subject.id :: f.data?.toList

theorem Graph.raw_mem_rawIds {g : Graph} {kind : EntityKind} {e : EntityId}
    (h : e ∈ g.entityIds kind) : e.raw ∈ g.rawIds := by
  have hkind : kind ∈ EntityKind.all := by
    cases kind <;> decide
  exact List.mem_flatMap.2 ⟨kind, hkind, List.mem_map_of_mem h⟩

theorem RelationTable.mem_texts_of_mem_get {t : RelationTable} {key atom : String}
    {tuple : AtomTuple} (htuple : tuple ∈ t.get key) (hatom : atom ∈ tuple) : atom ∈ t.texts := by
  rw [get] at htuple
  cases hfound : t.relations.lookup key with
  | none => simp [hfound] at htuple
  | some tuples =>
      rw [hfound, Option.getD_some] at htuple
      obtain ⟨before, behind, hrelations, -⟩ := List.lookup_eq_some_iff.1 hfound
      refine List.mem_append_right _ (List.mem_flatMap.2 ⟨(key, tuples), ?_, ?_⟩)
      · simp [hrelations]
      · exact List.mem_flatten.2 ⟨tuple, htuple, hatom⟩

theorem FindingTable.mem_of_mem_of_ofFn {rules : List Rule} {found : Rule → List Finding} {r : Rule}
    {f : Finding} (h : f ∈ FindingTable.of (.ofFn rules found) r) : f ∈ found r := by
  by_cases hr : r ∈ rules
  · rwa [of, RuleTable.get?_ofFn _ hr] at h
  · rw [of, RuleTable.get?_ofFn_of_notMem _ hr] at h
    exact absurd h List.not_mem_nil

namespace Group

variable {fs : List Finding} {g : Group}

theorem primary_mem_of_mem_ofFindings (hg : g ∈ ofFindings fs) : g.primary ∈ fs :=
  List.mem_of_find?_eq_some ((collects_ofFindings fs).gathers g hg).primary

/-- What stands in the line of a group is what its members say. -/
theorem exists_mem_texts (hg : g ∈ ofFindings fs) {t : String} (ht : t ∈ g.texts) :
    ∃ f ∈ fs, t ∈ f.texts := by
  rcases List.mem_cons.1 ht with rfl | hdata
  · exact ⟨g.primary, primary_mem_of_mem_ofFindings hg, List.mem_cons_self⟩
  · rw [((collects_ofFindings fs).gathers g hg).data, dataOf, List.mem_eraseDups,
      List.mem_filterMap] at hdata
    obtain ⟨f, hf, hdata⟩ := hdata
    exact ⟨f, List.mem_of_mem_filter hf,
      List.mem_cons_of_mem _ (Option.mem_toList.2 hdata)⟩

end Group

namespace Report

variable {first second : FindingTable}

theorem groupsOf_build (first second : FindingTable) (digest : String) (r : Rule) :
    (build first second digest).groupsOf r = Group.ofFindings (first.of r ++ second.of r) := by
  rw [groupsOf, build, GroupTable.get?_merge, Option.getD_some]

/-- A report is regular if its findings have the advice of their rules. -/
theorem isRegular_build (h : ∀ r, ∀ f ∈ first.of r ++ second.of r, f.remediation = r.remediation)
    {digest : String} (hdigest : IsLine digest) : (build first second digest).IsRegular where
  entries := by
    simp only [groupsOf_build]
    rfl
  advice r g hg := by
    rw [groupsOf_build] at hg
    exact h r _ (Group.primary_mem_of_mem_ofFindings hg)
  digest := hdigest

/-- What the groups of a report show comes from its findings. -/
theorem exists_mem_texts_of_build (digest : String) {t : String}
    (h : t ∈ (build first second digest).items.flatMap Group.texts) :
    ∃ r, ∃ f ∈ first.of r ++ second.of r, t ∈ f.texts := by
  obtain ⟨g, hg, ht⟩ := List.mem_flatMap.1 h
  obtain ⟨r, -, hg⟩ := List.mem_flatMap.1 hg
  rw [groupsOf_build] at hg
  exact ⟨r, Group.exists_mem_texts hg ht⟩

end Report

namespace Graph

/-- Local findings have the advice of their rules, and show ids of the graph. -/
theorem of_mem_localFindings {g : Graph} {r : Rule} {f : Finding} (h : f ∈ g.localFindings.of r) :
    f.remediation = r.remediation ∧ f.texts ⊆ g.rawIds := by
  have hmem := FindingTable.mem_of_mem_of_ofFn h
  obtain ⟨s, hs, rfl⟩ := List.mem_map.1 hmem
  refine ⟨rfl, fun t ht => ?_⟩
  obtain rfl := List.mem_singleton.1 ht
  have hid : s.id ∈ g.entityIds .system := List.mem_map_of_mem (List.mem_of_mem_filter hs)
  exact raw_mem_rawIds hid

theorem reportedId_mem_rawIds_or (g : Graph) (kind : EntityKind) (atom : String) :
    g.reportedId kind atom ∈ g.rawIds ∨ g.reportedId kind atom = atom := by
  rw [reportedId]
  cases hentity : g.entityOf? kind atom with
  | none => exact Or.inr rfl
  | some e => exact Or.inl (raw_mem_rawIds (of_entityOf?_eq_some hentity).1)

theorem texts_findingOf (g : Graph) (r : Rule) (tuple : AtomTuple) :
    (g.findingOf r tuple).texts = (r.positions tuple).map fun p => g.reportedId p.1 p.2 := by
  have hid (kind : EntityKind) (id : String) : (Subject.ofKind kind id).id = id := by
    cases kind <;> rfl
  rw [Finding.texts, findingOf, Rule.positions]
  simp only [hid]
  split <;> rfl

theorem texts_of_mem_tupleWarnings {g : Graph} {r : Rule} {tuple : AtomTuple} {w : Warning}
    (hw : w ∈ g.tupleWarnings r tuple) : ∃ p ∈ r.positions tuple, w.texts = [p.2] := by
  obtain ⟨p, hp, hw⟩ := List.mem_flatMap.1 hw
  obtain ⟨rfl, -⟩ := of_atomWarning?_eq_some (Option.mem_toList.1 hw)
  exact ⟨p, hp, rfl⟩

end Graph

/-- The places that are read stand in a tuple that is long enough. -/
theorem Rule.mem_of_mem_positions {r : Rule} {tuple : AtomTuple}
    (hlength : r.arity.tupleLength ≤ tuple.length) {p : EntityKind × String}
    (hp : p ∈ r.positions tuple) : p.2 ∈ tuple := by
  have hmem (i : Nat) (hi : i < tuple.length) : tuple.getD i "" ∈ tuple := by
    rw [List.getD_eq_getElem _ _ hi]
    exact List.getElem_mem hi
  rcases List.mem_cons.1 hp with rfl | hp
  · exact hmem 1 (Nat.lt_of_lt_of_le r.arity.one_lt_tupleLength hlength)
  · split at hp
    · next hdata =>
      obtain rfl := List.mem_singleton.1 hp
      exact hmem 2 (Nat.lt_of_lt_of_le (Arity.two_lt_tupleLength hdata) hlength)
    · exact absurd hp List.not_mem_nil

theorem RelationTable.mem_texts_of_mem_positions {t : RelationTable} {r : Rule}
    {tuple : AtomTuple} (htuple : tuple ∈ t.completeTuples r) {p : EntityKind × String}
    (hp : p ∈ r.positions tuple) : p.2 ∈ t.texts := by
  obtain ⟨hget, hlength⟩ := List.mem_filter.1 htuple
  exact mem_texts_of_mem_get hget (Rule.mem_of_mem_positions (of_decide_eq_true hlength) hp)

theorem texts_of_labelWarning? {label : String} {w : Warning} (h : labelWarning? label = some w) :
    w.texts ⊆ [label] := by
  rcases labelWarning?_eq_some_iff.1 h with ⟨r, -, -, rfl⟩ | ⟨-, -, rfl⟩
  · exact List.nil_subset _
  · exact List.Subset.refl _

namespace Graph

namespace Consistent

variable {g : Graph}

/-- Findings of an engine have the advice of their rules, and show ids or atoms. -/
theorem of_mem_classify (h : g.Consistent) {t : RelationTable} {r : Rule} {f : Finding}
    (hf : f ∈ (t.classify g.ids).findings.of r) :
    f.remediation = r.remediation ∧ ∀ text ∈ f.texts, text ∈ g.rawIds ∨ text ∈ t.texts := by
  have hmem := FindingTable.mem_of_mem_of_ofFn hf
  rw [h.findingsOf_eq, List.map_map] at hmem
  obtain ⟨tuple, htuple, rfl⟩ := List.mem_map.1 hmem
  refine ⟨rfl, fun text htext => ?_⟩
  rw [Function.comp_apply, texts_findingOf] at htext
  obtain ⟨p, hp, rfl⟩ := List.mem_map.1 htext
  refine (g.reportedId_mem_rawIds_or p.1 p.2).imp_right fun heq => ?_
  rw [heq]
  exact RelationTable.mem_texts_of_mem_positions htuple hp

theorem texts_of_mem_warnings (h : g.Consistent) {t : RelationTable} {w : Warning}
    (hw : w ∈ (t.classify g.ids).warnings) : w.texts ⊆ t.texts := by
  simp only [RelationTable.classify, h.findingsOf_eq, List.flatMap_map] at hw
  rcases List.mem_append.1 hw with hw | hw
  · obtain ⟨label, hlabel, hw⟩ := List.mem_filterMap.1 hw
    intro text htext
    obtain rfl := List.mem_singleton.1 (texts_of_labelWarning? hw htext)
    exact List.mem_append_left _ hlabel
  · obtain ⟨r, -, hw⟩ := List.mem_flatMap.1 hw
    obtain ⟨tuple, htuple, hw⟩ := List.mem_flatMap.1 hw
    obtain ⟨p, hp, htexts⟩ := texts_of_mem_tupleWarnings hw
    intro text htext
    rw [htexts, List.mem_singleton] at htext
    rw [htext]
    exact RelationTable.mem_texts_of_mem_positions htuple hp

end Consistent

theorem interpret_cases (g : Graph) (output digest : String) :
    (∃ reason, g.interpret output digest = g.degradedReport digest reason) ∨
      ∃ t, RelationTable.ofText output = .ok t ∧
        g.interpret output digest = g.classifiedReport t digest := by
  by_cases hlacks : LacksFindings (.ok output)
  · exact Or.inl (g.interpret_of_lacksFindings hlacks digest)
  · obtain ⟨t, ht, hmissing⟩ := not_lacksFindings_iff.1 hlacks
    exact Or.inr ⟨t, ht, g.interpret_of_missingRules_eq_nil ht hmissing digest⟩

theorem Consistent.isRegular_interpret {g : Graph} (h : g.Consistent) (output : String)
    {digest : String} (hdigest : IsLine digest) : (g.interpret output digest).IsRegular := by
  rcases g.interpret_cases output digest with ⟨reason, heq⟩ | ⟨t, -, heq⟩
  · have hbuild : (Report.build ∅ g.localFindings digest).IsRegular :=
      Report.isRegular_build (fun r f hf => (of_mem_localFindings hf).1) hdigest
    rw [heq]
    exact ⟨hbuild.entries, hbuild.advice, hbuild.digest⟩
  · have hbuild : (Report.build (t.classify g.ids).findings g.localFindings digest).IsRegular :=
      Report.isRegular_build (fun r => List.forall_mem_append.2
        ⟨fun f hf => (h.of_mem_classify hf).1, fun f hf => (of_mem_localFindings hf).1⟩) hdigest
    rw [heq]
    exact ⟨hbuild.entries, hbuild.advice, hbuild.digest⟩

/-- The text comes from the graph, or from the document that was read from the output. -/
def Supplies (g : Graph) (output text : String) : Prop :=
  text ∈ g.rawIds ∨ ∃ t, RelationTable.ofText output = .ok t ∧ text ∈ t.texts

/-- What the items of a report show comes from the graph or from the output. -/
theorem Consistent.supplies_of_mem_itemTexts {g : Graph} (h : g.Consistent)
    {output digest text : String} (htext : text ∈ (g.interpret output digest).itemTexts) :
    g.Supplies output text := by
  rcases g.interpret_cases output digest with ⟨reason, heq⟩ | ⟨t, ht, heq⟩
  · rw [heq] at htext
    rcases List.mem_append.1 htext with htext | htext
    · obtain ⟨r, f, hf, htext⟩ := Report.exists_mem_texts_of_build digest htext
      exact Or.inl ((of_mem_localFindings hf).2 htext)
    · exact absurd htext List.not_mem_nil
  · rw [heq] at htext
    rcases List.mem_append.1 htext with htext | htext
    · obtain ⟨r, f, hf, htext⟩ := Report.exists_mem_texts_of_build digest htext
      rcases List.mem_append.1 hf with hf | hf
      · exact ((h.of_mem_classify hf).2 text htext).imp_right fun hmem => ⟨t, ht, hmem⟩
      · exact Or.inl ((of_mem_localFindings hf).2 htext)
    · obtain ⟨w, hw, htext⟩ := List.mem_flatMap.1 htext
      exact Or.inr ⟨t, ht, h.texts_of_mem_warnings hw htext⟩

/-- The summary of the report on a payload and any output of an engine keeps its layout
exactly if no id, atom or label in it has a line feed and, where the output was not
used, the reason has none before what looks like a line of the layout.  The texts meant
are ids of the payload's graph, and labels and atoms of the output. -/
theorem keepsLayout_interpret_iff {v : Value} {g : Graph} (hg : ofJson v = .ok g)
    (output : String) (spec : Specification) :
    ((g.interpret output spec.digest).KeepsLayout ↔
        (∀ text ∈ (g.interpret output spec.digest).itemTexts, IsLine text) ∧
          ∀ reason ∈ (g.interpret output spec.digest).degradedReason?,
            ∀ line ∈ (Text.lines reason).tail, Report.IsPlain line) ∧
      ∀ text ∈ (g.interpret output spec.digest).itemTexts, g.Supplies output text := by
  have hconsistent := consistent_of_ofJson hg
  exact ⟨(hconsistent.isRegular_interpret output (Report.isLine_digest spec)).keepsLayout_iff,
    fun text => hconsistent.supplies_of_mem_itemTexts⟩

/-- Behind the first line and the reason, a degraded summary is the local one. -/
theorem filter_lines_degradedReport (g : Graph) {digest reason : String}
    (hdigest : IsLine digest) (hreason : IsLine reason) {P : String → Prop} [DecidablePred P]
    (hP : ∀ line, Report.IsPlain line → ¬ P line) :
    (Text.lines (g.degradedReport digest reason).text).filter P =
      (g.localReport.lines.tail.flatMap Text.lines).filter P := by
  have hfirst : IsLine (g.degradedReport digest reason).headline := Report.isLine_headline hdigest
  have hsecond : IsLine ("  engine output unavailable: " ++ reason) :=
    isLine_append.2 ⟨by decide, hreason⟩
  have hlines : (g.degradedReport digest reason).lines =
      (g.degradedReport digest reason).headline
        :: ("  engine output unavailable: " ++ reason) :: g.localReport.lines.tail := rfl
  rw [Report.text, Text.lines_unlines_eq_flatMap, hlines, List.flatMap_cons, List.flatMap_cons,
    Text.lines_of_isLine hfirst, Text.lines_of_isLine hsecond]
  simp [hP _ (Report.isPlain_headline _), hP _ (Report.isPlain_reason reason),
    hP _ Report.isPlain_empty]

/-- A system that is not registered, with the given id. -/
def unregisteredSystem (id : String) : Value :=
  .object
    [("locations", .array [.object [("id", .string "z")]]),
     ("systems", .array
      [.object [("id", .string id), ("isRegistered", .bool false), ("location", .string "z")]])]

theorem interpret_of_ofText_eq_error (g : Graph) {output : String} {e : DecodeError}
    (h : RelationTable.ofText output = .error e) (digest : String) :
    g.interpret output digest = g.degradedReport digest e.message := by
  simp only [interpret, h]

theorem itemTexts_degradedReport (g : Graph) (digest reason : String) :
    (g.degradedReport digest reason).itemTexts = g.localReport.itemTexts :=
  rfl

theorem groupsOf_degradedReport (g : Graph) (digest reason : String) (r : Rule) :
    (g.degradedReport digest reason).groupsOf r = g.localReport.groupsOf r :=
  rfl

theorem groupCount_degradedReport (g : Graph) (digest reason : String) :
    (g.degradedReport digest reason).groupCount = g.localReport.groupCount :=
  rfl

/-- Why a document with a line feed in a name is not used. -/
def multilineReason : String :=
  "malformed engine output at byte 3: mismatched closing tag </b\nc>, expected </a>"

/-- The reason has a line feed, and yet the layout is kept. -/
theorem keepsLayout_interpret_iff_multilineReason :
    ∃ g spec, ofJson (unregisteredSystem "s") = .ok g ∧ g.compile = .ok spec ∧
      (g.interpret "<a></b\nc>" spec.digest).degradedReason? = some multilineReason ∧
      (g.interpret "<a></b\nc>" spec.digest).KeepsLayout := by
  have hread : (ofJson (unregisteredSystem "s")).toOption.map (fun g => g.localReport.itemTexts) =
      some ["s"] := by decide +kernel
  obtain ⟨g, hg, htexts⟩ := Option.map_eq_some_iff.1 hread
  have hok := except_toOption_eq_some_iff.1 hg
  have hfault : RelationTable.ofText "<a></b\nc>" =
      .error ⟨3, "mismatched closing tag </b\nc>, expected </a>"⟩ := by decide +kernel
  have hreason (digest : String) :
      (g.interpret "<a></b\nc>" digest).degradedReason? = some multilineReason := by
    rw [g.interpret_of_ofText_eq_error hfault]
    exact congrArg some (by decide +kernel)
  have hitems (digest : String) : (g.interpret "<a></b\nc>" digest).itemTexts = ["s"] := by
    rw [g.interpret_of_ofText_eq_error hfault, itemTexts_degradedReport, htexts]
  have htail : (Text.lines multilineReason).tail = ["c>, expected </a>"] := by decide +kernel
  refine ⟨g, _, hok, (consistent_of_ofJson hok).compile_eq_ok, hreason _,
    (keepsLayout_interpret_iff hok _ _).1.2 ⟨?_, ?_⟩⟩
  · rw [hitems]
    decide
  · rw [hreason]
    rintro _ ⟨⟩
    rw [htail, List.forall_mem_singleton]
    exact Report.isPlain_of_head? (by decide) (by decide)

/-- The id goes on with what looks like the header of a rule and another system. -/
theorem not_keepsLayout_interpret_forgedBlock :
    ∃ g spec, ofJson (unregisteredSystem "s'\n\nFindEOL (1)\n  - system 't") = .ok g ∧
      g.compile = .ok spec ∧ (g.interpret "" spec.digest).groupCount = 1 ∧
      (g.interpret "" spec.digest).warnings = [] ∧
      (g.interpret "" spec.digest).groupsOf .endOfLife = [] ∧
      (Text.lines (g.interpret "" spec.digest).text).filter Report.IsItemLine =
        ["  - system 's'", "  - system 't'"] ∧
      (Text.lines (g.interpret "" spec.digest).text).filter Report.IsHeaderLine =
        ["FindShadowIT (1)", "FindEOL (1)"] ∧
      ¬ (g.interpret "" spec.digest).KeepsLayout := by
  have hread : (ofJson (unregisteredSystem "s'\n\nFindEOL (1)\n  - system 't")).toOption.map
      (fun g => (g.localReport.groupCount, g.localReport.groupsOf .endOfLife,
        g.localReport.lines.tail)) =
      some (1, [], ["", "FindShadowIT (1)", "  " ++ Rule.shadowAsset.remediation,
        "  - system 's'\n\nFindEOL (1)\n  - system 't'"]) := by decide +kernel
  obtain ⟨g, hg, hvalues⟩ := Option.map_eq_some_iff.1 hread
  simp only [Prod.mk.injEq] at hvalues
  obtain ⟨hcount, hnone, hlines⟩ := hvalues
  have hok := except_toOption_eq_some_iff.1 hg
  have hfault : (RelationTable.ofText "") = .error ⟨0, "missing root element"⟩ := by decide +kernel
  have hreason : IsLine (DecodeError.message ⟨0, "missing root element"⟩) := by decide +kernel
  have hdigest : IsLine (Specification.digest ⟨Spec.render g.forms⟩) := Report.isLine_digest _
  have hforged : Text.lines "  - system 's'\n\nFindEOL (1)\n  - system 't'" =
      ["  - system 's'", "", "FindEOL (1)", "  - system 't'"] := by decide +kernel
  have hadvice : IsLine ("  " ++ Rule.shadowAsset.remediation) :=
    isLine_append.2 ⟨by decide, (Rule.isLine_remediation _).1⟩
  have hfilter (P : String → Prop) [DecidablePred P] (hP : ∀ line, Report.IsPlain line → ¬ P line) :
      (Text.lines (g.degradedReport (Specification.digest ⟨Spec.render g.forms⟩)
        (DecodeError.message ⟨0, "missing root element"⟩)).text).filter P =
      ["FindShadowIT (1)", "  - system 's'", "FindEOL (1)", "  - system 't'"].filter P := by
    have hshadow : IsLine "FindShadowIT (1)" := by decide
    have hempty := hP _ Report.isPlain_empty
    rw [g.filter_lines_degradedReport hdigest hreason hP, hlines]
    simp only [List.flatMap_cons, List.flatMap_nil, hforged, Text.lines_of_isLine hadvice,
      Text.lines_of_isLine hshadow, Text.lines_of_isLine (show IsLine "" by decide),
      List.cons_append, List.nil_append]
    simp only [List.filter_cons, hempty, hP _ (Report.isPlain_advice _), decide_false,
      Bool.false_eq_true, if_false]
  have hitems := (hfilter Report.IsItemLine fun _ hplain => hplain.1).trans
    (show _ = ["  - system 's'", "  - system 't'"] by decide +kernel)
  have hheaders := (hfilter Report.IsHeaderLine fun _ hplain => hplain.2).trans
    (show _ = ["FindShadowIT (1)", "FindEOL (1)"] by decide +kernel)
  refine ⟨g, _, hok, (consistent_of_ofJson hok).compile_eq_ok, ?_⟩
  rw [g.interpret_of_ofText_eq_error hfault]
  refine ⟨(g.groupCount_degradedReport _ _).trans hcount, rfl,
    (g.groupsOf_degradedReport _ _ _).trans hnone, hitems, hheaders, fun hkeeps => ?_⟩
  have hlength := hkeeps.itemCount
  rw [hitems, g.groupCount_degradedReport, hcount] at hlength
  change 2 = 1 + 0 at hlength
  exact absurd hlength (by decide)

end Graph

end ZoneGuard
