import Mathlib
import ZoneGuard.Proofs.Group
import ZoneGuard.Proofs.Summary.Lines

/-!
# The layout of a summary

A summary has a line for each group and each warning, and a header for each rule with
groups.  Since a line feed in an id, an atom or a label begins a new line, which may
look like any other, the layout is kept exactly if there is none.  The reason why output
was not used may have line feeds, if what follows them does not look like a line of the
layout.
-/

namespace ZoneGuard

open Text (IsLine isLine_append)

namespace Report

/-! ## The layout -/

def groupsOf (report : Report) (r : Rule) : List Group := (report.groups.get? r).getD []

def firedRules (report : Report) : List Rule := Rule.all.filter fun r => report.groupsOf r ≠ []

def items (report : Report) : List Group := report.firedRules.flatMap report.groupsOf

/-- The texts that are spliced into the lines of groups and warnings. -/
def itemTexts (report : Report) : List String :=
  report.items.flatMap Group.texts ++ report.warnings.flatMap Warning.texts

/-- The header of a rule, the advice that goes with it, and the lines of its groups. -/
def block (r : Rule) (gs : List Group) : List String :=
  headerLine r gs.length :: ("  " ++ r.remediation) :: gs.map itemLine

/-- The summary has one line for each item and one header for each rule with groups, and
no other line that looks like one of these. -/
structure KeepsLayout (report : Report) : Prop where
  itemCount : ((Text.lines report.text).filter IsItemLine).length =
    report.groupCount + report.warnings.length
  /-- The lines of the groups come in their order, and those of the warnings behind. -/
  items : (Text.lines report.text).filter IsItemLine =
    report.items.map itemLine ++ report.warnings.map warningLine
  headers : (Text.lines report.text).filter IsHeaderLine =
    report.firedRules.map fun r => headerLine r (report.groupsOf r).length
  blocks : ∀ r ∈ report.firedRules, block r (report.groupsOf r) <:+: Text.lines report.text

/-- The report has an entry for each rule in the order of the catalog, groups with the
advice of the catalog, and a digest in one line. -/
structure IsRegular (report : Report) : Prop where
  entries : report.groups.entries = Rule.all.map fun r => (r, report.groupsOf r)
  advice : ∀ r, ∀ g ∈ report.groupsOf r, g.primary.remediation = r.remediation
  digest : IsLine report.digest

theorem ruleLines_eq {r : Rule} {gs : List Group} (hne : gs ≠ [])
    (hadvice : ∀ g ∈ gs, g.primary.remediation = r.remediation) :
    ruleLines r gs = "" :: block r gs := by
  have hlines : gs.flatMap (groupLines r) = gs.map itemLine := by
    rw [List.map_eq_flatMap]
    refine List.flatMap_congr fun g hg => ?_
    rw [groupLines, if_pos (hadvice g hg)]
    rfl
  rw [ruleLines, if_neg (by simpa using hne), hlines]
  rfl

theorem mem_warningLines {ws : List Warning} {line : String} (h : line ∈ warningLines ws) :
    line = "" ∨ line = "warnings:" ∨ ∃ w ∈ ws, warningLine w = line := by
  unfold warningLines at h
  split at h
  · exact absurd h List.not_mem_nil
  · simpa [warningLine] using h

def reasonLines (report : Report) : List String :=
  report.degradedReason?.toList.flatMap fun reason =>
    Text.lines ("  engine output unavailable: " ++ reason)

theorem filter_isItemLine_block (r : Rule) (gs : List Group) :
    ("" :: block r gs).filter IsItemLine = gs.map itemLine := by
  have hall : (gs.map itemLine).filter IsItemLine = gs.map itemLine :=
    List.filter_eq_self.2 (by simpa using fun g _ => isItemLine_itemLine g)
  simp [block, isPlain_empty.1, (isHeaderLine_headerLine r _).not_isItemLine,
    (isPlain_advice r).1, hall]

theorem filter_isHeaderLine_block (r : Rule) (gs : List Group) :
    ("" :: block r gs).filter IsHeaderLine = [headerLine r gs.length] := by
  have hnone : (gs.map itemLine).filter IsHeaderLine = [] :=
    List.filter_eq_nil_iff.2 (by simpa using fun g _ => (isItemLine_itemLine g).not_isHeaderLine)
  simp [block, isPlain_empty.2, isHeaderLine_headerLine, (isPlain_advice r).2, hnone]

theorem filter_isItemLine_warningLines (ws : List Warning) :
    (warningLines ws).filter IsItemLine = ws.map warningLine := by
  have hall : (ws.map warningLine).filter IsItemLine = ws.map warningLine :=
    List.filter_eq_self.2 (by simpa using fun w _ => isItemLine_warningLine w)
  unfold warningLines
  split
  · next hempty =>
    rw [List.isEmpty_iff.1 hempty]
    rfl
  · change List.filter _ ("" :: "warnings:" :: ws.map warningLine) = _
    simp [isPlain_empty.1, isPlain_heading.1, hall]

theorem filter_isHeaderLine_warningLines (ws : List Warning) :
    (warningLines ws).filter IsHeaderLine = [] := by
  refine List.filter_eq_nil_iff.2 fun line hline => ?_
  rcases mem_warningLines hline with rfl | rfl | ⟨w, -, rfl⟩
  · simpa using isPlain_empty.2
  · simpa using isPlain_heading.2
  · simpa using (isItemLine_warningLine w).not_isHeaderLine

/-- The first line of the reason goes on behind fixed words. -/
theorem filter_reasonLines_eq_nil_iff (report : Report) {P : String → Prop} [DecidablePred P]
    (hP : ∀ line, IsPlain line → ¬ P line) :
    report.reasonLines.filter P = [] ↔
      ∀ reason ∈ report.degradedReason?, ∀ line ∈ (Text.lines reason).tail, ¬ P line := by
  rw [reasonLines]
  cases report.degradedReason? with
  | none => simp
  | some reason =>
      obtain ⟨first, hlines⟩ :=
        Text.exists_lines_append (show IsLine "  engine output unavailable: " by decide) reason
      simp [hlines, hP _ (isPlain_reason first)]

theorem flatMap_filter_of_forall {α β : Type} {p : α → Bool} {f g : α → List β}
    (hpos : ∀ a, p a = true → f a = g a) (hneg : ∀ a, p a = false → f a = []) (as : List α) :
    as.flatMap f = (as.filter p).flatMap g := by
  induction as with
  | nil => rfl
  | cons a as ih =>
      rw [List.flatMap_cons, ih]
      cases ha : p a with
      | true => rw [List.filter_cons_of_pos ha, List.flatMap_cons, hpos a ha]
      | false => rw [List.filter_cons_of_neg (by simp [ha]), hneg a ha, List.nil_append]

namespace IsRegular

variable {report : Report} (h : report.IsRegular)
include h

/-- A summary is its headline, the reason if there is one, the blocks and the warnings. -/
theorem lines_eq : report.lines =
    report.headline
      :: (report.degradedReason?.toList.map ("  engine output unavailable: " ++ ·)
        ++ (report.firedRules.flatMap (fun r => "" :: block r (report.groupsOf r))
          ++ warningLines report.warnings)) := by
  have hrules : report.groups.entries.flatMap (fun entry => ruleLines entry.1 entry.2) =
      report.firedRules.flatMap fun r => "" :: block r (report.groupsOf r) := by
    rw [h.entries, List.flatMap_map]
    refine flatMap_filter_of_forall (fun r hr => ?_) (fun r hr => ?_) Rule.all
    · exact ruleLines_eq (of_decide_eq_true hr) (h.advice r)
    · have hnone : report.groupsOf r = [] := by simpa using hr
      simp only [hnone]
      rfl
  rw [lines, hrules]
  cases report.degradedReason? <;> simp

theorem groupCount_eq : report.groupCount = report.items.length := by
  have hitems : Rule.all.flatMap report.groupsOf = report.items :=
    flatMap_filter_of_forall (fun _ _ => rfl) (fun r hr => by simpa using hr) Rule.all
  rw [groupCount, RuleTable.values, h.entries, List.map_map, ← hitems, List.flatMap_def]
  rfl

/-- The lines of the text are those of the summary, if no text has a line feed. -/
theorem lines_text (hitems : ∀ t ∈ report.itemTexts, IsLine t) : Text.lines report.text =
    report.headline
      :: (report.reasonLines
        ++ (report.firedRules.flatMap (fun r => "" :: block r (report.groupsOf r))
          ++ (warningLines report.warnings ++ [""]))) := by
  obtain ⟨hgroups, hwarnings⟩ := List.forall_mem_append.1 hitems
  have hblock : ∀ line ∈ report.firedRules.flatMap fun r => "" :: block r (report.groupsOf r),
      IsLine line := by
    intro line hline
    obtain ⟨r, hr, hline⟩ := List.mem_flatMap.1 hline
    have hitem : ∀ g ∈ report.groupsOf r, IsLine (itemLine g) := fun g hg =>
      isLine_itemLine_iff.2 fun t ht =>
        hgroups t (List.mem_flatMap.2 ⟨g, List.mem_flatMap.2 ⟨r, hr, hg⟩, ht⟩)
    simp only [block, List.mem_cons, List.mem_map] at hline
    rcases hline with rfl | rfl | rfl | ⟨g, hg, rfl⟩
    · decide
    · exact isLine_headerLine r _
    · exact isLine_append.2 ⟨by decide, r.isLine_remediation.1⟩
    · exact hitem g hg
  have hwarning : ∀ line ∈ warningLines report.warnings, IsLine line := by
    intro line hline
    rcases mem_warningLines hline with rfl | rfl | ⟨w, hw, rfl⟩
    · decide
    · decide
    · exact isLine_warningLine_iff.2 fun t ht => hwarnings t (List.mem_flatMap.2 ⟨w, hw, ht⟩)
  rw [text, Text.lines_unlines_eq_flatMap, h.lines_eq, List.flatMap_cons,
    Text.lines_of_isLine (isLine_headline h.digest), List.flatMap_append, List.flatMap_append,
    Text.flatMap_lines_of_forall hblock, Text.flatMap_lines_of_forall hwarning, List.flatMap_map]
  simp only [List.cons_append, List.append_assoc]
  rfl

/-- What is looked for among the lines is in the reason, in the blocks or in the warnings. -/
theorem filter_lines_text (hitems : ∀ t ∈ report.itemTexts, IsLine t) {P : String → Prop}
    [DecidablePred P] (hP : ∀ line, IsPlain line → ¬ P line) :
    (Text.lines report.text).filter P = report.reasonLines.filter P
      ++ (report.firedRules.flatMap (fun r => ("" :: block r (report.groupsOf r)).filter P)
        ++ (warningLines report.warnings).filter P) := by
  have hheadline : ¬ P report.headline := hP _ (isPlain_headline report)
  rw [h.lines_text hitems, List.filter_cons_of_neg (by simpa using hheadline),
    List.filter_append, List.filter_append, List.filter_append, List.filter_flatMap]
  simp [hP _ isPlain_empty]

/-- The lines that look like items are the items, if no text has a line feed. -/
theorem filter_isItemLine (hitems : ∀ t ∈ report.itemTexts, IsLine t) :
    (Text.lines report.text).filter IsItemLine = report.reasonLines.filter IsItemLine
      ++ (report.items.map itemLine ++ report.warnings.map warningLine) := by
  rw [h.filter_lines_text hitems fun _ hplain => hplain.1, filter_isItemLine_warningLines,
    List.flatMap_congr fun r _ => filter_isItemLine_block r _, items, List.map_flatMap]

/-- The lines that look like headers are the headers, if no text has a line feed. -/
theorem filter_isHeaderLine (hitems : ∀ t ∈ report.itemTexts, IsLine t) :
    (Text.lines report.text).filter IsHeaderLine = report.reasonLines.filter IsHeaderLine
      ++ report.firedRules.map fun r => headerLine r (report.groupsOf r).length := by
  rw [h.filter_lines_text hitems fun _ hplain => hplain.2, filter_isHeaderLine_warningLines,
    List.flatMap_congr fun r _ => filter_isHeaderLine_block r _, List.append_nil,
    List.map_eq_flatMap]

end IsRegular

/-- The layout is kept exactly if what is spliced in has no line feed, and what stands
behind one in the reason looks like nothing of the layout. -/
theorem IsRegular.keepsLayout_iff {report : Report} (h : report.IsRegular) :
    report.KeepsLayout ↔ (∀ t ∈ report.itemTexts, IsLine t) ∧
      ∀ reason ∈ report.degradedReason?, ∀ line ∈ (Text.lines reason).tail, IsPlain line := by
  have hitemReason := filter_reasonLines_eq_nil_iff report fun _ (hplain : IsPlain _) => hplain.1
  have hheaderReason := filter_reasonLines_eq_nil_iff report fun _ (hplain : IsPlain _) => hplain.2
  constructor
  · intro hlayout
    have hline : ∀ line ∈ report.items.map itemLine ++ report.warnings.map warningLine,
        IsLine line := by
      intro line hline
      rw [← hlayout.items] at hline
      exact Text.isLine_of_mem_lines (List.mem_filter.1 hline).1
    obtain ⟨hgroups, hwarnings⟩ := List.forall_mem_append.1 hline
    have hitems : ∀ t ∈ report.itemTexts, IsLine t := by
      refine List.forall_mem_append.2 ⟨fun t ht => ?_, fun t ht => ?_⟩
      · obtain ⟨g, hg, ht⟩ := List.mem_flatMap.1 ht
        exact isLine_itemLine_iff.1 (hgroups _ (List.mem_map_of_mem hg)) t ht
      · obtain ⟨w, hw, ht⟩ := List.mem_flatMap.1 ht
        exact isLine_warningLine_iff.1 (hwarnings _ (List.mem_map_of_mem hw)) t ht
    have hnoItem := (h.filter_isItemLine hitems).symm.trans hlayout.items
    have hnoHeader := (h.filter_isHeaderLine hitems).symm.trans hlayout.headers
    rw [List.append_left_eq_self] at hnoItem hnoHeader
    exact ⟨hitems, fun reason hreason line hline =>
      ⟨hitemReason.1 hnoItem reason hreason line hline,
        hheaderReason.1 hnoHeader reason hreason line hline⟩⟩
  · rintro ⟨hitems, hreason⟩
    have hnoItem := hitemReason.2 fun reason hr line hline => (hreason reason hr line hline).1
    have hnoHeader := hheaderReason.2 fun reason hr line hline => (hreason reason hr line hline).2
    have hfilter := h.filter_isItemLine hitems
    have hfilter' := h.filter_isHeaderLine hitems
    rw [hnoItem, List.nil_append] at hfilter
    rw [hnoHeader, List.nil_append] at hfilter'
    refine ⟨?_, hfilter, hfilter', fun r hr => ?_⟩
    · rw [hfilter, List.length_append, List.length_map, List.length_map, h.groupCount_eq]
    · have hinside : "" :: block r (report.groupsOf r) <:+:
          report.firedRules.flatMap fun r => "" :: block r (report.groupsOf r) := by
        rw [List.flatMap_def]
        exact List.infix_of_mem_flatten (List.mem_map_of_mem hr)
      refine (List.suffix_cons _ _).isInfix.trans (hinside.trans ?_)
      rw [h.lines_text hitems]
      exact ⟨report.headline :: report.reasonLines, warningLines report.warnings ++ [""], by simp⟩

end Report

end ZoneGuard
