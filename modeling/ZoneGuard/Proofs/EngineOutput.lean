import Mathlib
import ZoneGuard.Proofs.Markup.Nesting
import ZoneGuard.Relation

/-!
# Engine output read back

Engine output lists relations as elements.  What is read from it does not depend
on the places of the tags, and if no label is given to two fields, each relation
is found again under its label, with its tuples in order.
-/

namespace ZoneGuard

open Markup (Element)

/-! ## Elements -/

def atomElement (label : String) : Element := ⟨"atom", [("label", label)], [], 0⟩

def tupleElement (labels : List String) : Element := ⟨"tuple", [], labels.map atomElement, 0⟩

def fieldElement (field : String × List (List String)) : Element :=
  ⟨"field", [("label", field.1)], field.2.map tupleElement, 0⟩

def outputElement (root : String) (fields : List (String × List (List String))) : Element :=
  ⟨root, [], fields.map fieldElement, 0⟩

theorem height_outputElement_le (root : String) (fields : List (String × List (List String))) :
    (outputElement root fields).height ≤ 4 := by
  have hatom (label : String) : (atomElement label).height ≤ 1 := Nat.le_refl 1
  have htuple (labels : List String) : (tupleElement labels).height ≤ 2 := by
    rw [tupleElement, Element.height]
    exact Nat.succ_le_succ (Element.heightOfAll_le (by simp [hatom]))
  have hfield (field : String × List (List String)) : (fieldElement field).height ≤ 3 := by
    rw [fieldElement, Element.height]
    exact Nat.succ_le_succ (Element.heightOfAll_le (by simp [htuple]))
  rw [outputElement, Element.height]
  refine Nat.succ_le_succ (Element.heightOfAll_le fun e he => ?_)
  obtain ⟨field, -, rfl⟩ := List.mem_map.1 he
  exact hfield field

namespace Markup.Element

theorem childrenNamed_unplaced (e : Element) (name : String) :
    e.unplaced.childrenNamed name = (e.childrenNamed name).map unplaced := by
  rw [childrenNamed, childrenNamed, unplaced_children, List.filter_map]
  congr 1
  exact List.filter_congr fun child _ => by simp [unplaced_name]

theorem attribute?_unplaced (e : Element) (key : String) :
    e.unplaced.attribute? key = e.attribute? key := by
  rw [attribute?, attribute?, unplaced_attributes]

end Markup.Element

open Markup (IsPlainValue IsWord)

/-- Engine output can be written down if its labels can stand between quotes. -/
theorem isPlain_outputElement {root : String} {fields : List (String × List (List String))}
    (hroot : IsWord root.toList) (hfields : ∀ field ∈ fields, IsPlainValue field.1)
    (hlabels : ∀ field ∈ fields, ∀ labels ∈ field.2, ∀ label ∈ labels, IsPlainValue label) :
    (outputElement root fields).IsPlain := by
  have hlabelled {name label : String} (hname : IsWord name.toList) (hlabel : IsPlainValue label) :
      (Markup.Tag.opening name [("label", label)] false).IsPlain := by
    have hkey : IsWord "label".toList := by decide +kernel
    refine ⟨hname, List.nodup_singleton _, fun a ha => ?_⟩
    rw [List.mem_singleton.1 ha]
    exact ⟨hkey, hlabel⟩
  have hbare {name : String} (hname : IsWord name.toList) :
      (Markup.Tag.opening name [] false).IsPlain := ⟨hname, List.nodup_nil, by simp⟩
  refine .of_children (hbare hroot) fun e he => ?_
  obtain ⟨field, hfield, rfl⟩ := List.mem_map.1 he
  refine .of_children (hlabelled (by decide +kernel) (hfields field hfield)) fun e he => ?_
  obtain ⟨labels, htuple, rfl⟩ := List.mem_map.1 he
  refine .of_children (hbare (by decide +kernel)) fun e he => ?_
  obtain ⟨label, hlabel, rfl⟩ := List.mem_map.1 he
  exact .of_children (hlabelled (by decide +kernel) (hlabels field hfield labels htuple label
    hlabel)) (by simp)

/-! ## Places do not matter -/

open Markup.Element (unplaced)

theorem tupleOf_unplaced (e : Element) : tupleOf e.unplaced = tupleOf e := by
  rw [tupleOf, tupleOf, Element.childrenNamed_unplaced, List.filterMap_map]
  exact List.filterMap_congr fun a _ => by
    rw [Function.comp_apply, Element.attribute?_unplaced]

theorem labelledField?_unplaced (e : Element) : labelledField? e.unplaced = labelledField? e := by
  rw [labelledField?, labelledField?, Markup.Element.unplaced_name, Element.attribute?_unplaced,
    Element.childrenNamed_unplaced, List.map_map]
  simp only [Function.comp_def, tupleOf_unplaced]

namespace RelationTable

/-- Where the tags of a document stand does not matter for its relations. -/
theorem ofElement_unplaced (e : Element) : ofElement e.unplaced = ofElement e := by
  rw [ofElement, ofElement, Element.walk_eq_documentOrder, Element.walk_eq_documentOrder,
    Markup.Element.documentOrder_unplaced, List.filterMap_map]
  simp only [Function.comp_def, labelledField?_unplaced]

/-! ## Adding relations -/

theorem lookup_append_of_ne {label other : String} (h : other ≠ label)
    (tuples : List AtomTuple) (relations : List (String × List AtomTuple)) :
    (append label tuples relations).lookup other = relations.lookup other := by
  induction relations with
  | nil => simp [append, List.lookup_cons, beq_eq_false_iff_ne.2 h]
  | cons relation relations ih =>
      obtain ⟨known, knownTuples⟩ := relation
      unfold append
      split
      · next heq =>
        subst heq
        simp [List.lookup_cons, beq_eq_false_iff_ne.2 h]
      · split
        · simp [List.lookup_cons, beq_eq_false_iff_ne.2 h]
        · rw [List.lookup_cons, List.lookup_cons, ih]

theorem lookup_append_self {label : String} {relations : List (String × List AtomTuple)}
    (h : label ∉ relations.map (·.1)) (tuples : List AtomTuple) :
    (append label tuples relations).lookup label = some tuples := by
  induction relations with
  | nil => simp [append]
  | cons relation relations ih =>
      obtain ⟨known, knownTuples⟩ := relation
      rw [List.map_cons, List.mem_cons, not_or] at h
      unfold append
      rw [if_neg h.1]
      split
      · simp
      · rw [List.lookup_cons, beq_eq_false_iff_ne.2 h.1, ih h.2]

theorem mem_labels_append {label other : String} (tuples : List AtomTuple)
    (relations : List (String × List AtomTuple)) :
    other ∈ (append label tuples relations).map (·.1) ↔
      other = label ∨ other ∈ relations.map (·.1) := by
  induction relations with
  | nil => simp [append]
  | cons relation relations ih =>
      obtain ⟨known, knownTuples⟩ := relation
      unfold append
      split
      · next heq =>
        subst heq
        simp
      · split
        · simp
        · simp [ih, or_left_comm]

/-- The table after relations have been added one after the other. -/
def addAll (t : RelationTable) (fields : List (String × List AtomTuple)) : RelationTable :=
  fields.foldl (fun t field => t.add field.1 field.2) t

theorem mem_labels_addAll {t : RelationTable} {fields : List (String × List AtomTuple)}
    {label : String} :
    label ∈ (t.addAll fields).labels ↔ label ∈ t.labels ∨ label ∈ fields.map (·.1) := by
  induction fields generalizing t with
  | nil => simp [addAll]
  | cons field fields ih =>
      rw [addAll, List.foldl_cons, ← addAll, ih, labels, add, mem_labels_append, List.map_cons,
        List.mem_cons, ← labels, or_right_comm, or_comm, or_left_comm]

theorem lookup_addAll_of_notMem {t : RelationTable} {fields : List (String × List AtomTuple)}
    {label : String} (h : label ∉ fields.map (·.1)) :
    (t.addAll fields).relations.lookup label = t.relations.lookup label := by
  induction fields generalizing t with
  | nil => rfl
  | cons field fields ih =>
      rw [List.map_cons, List.mem_cons, not_or] at h
      rw [addAll, List.foldl_cons, ← addAll, ih h.2, add, lookup_append_of_ne h.1]

/-- A relation that is added once has just its tuples. -/
theorem get_addAll {t : RelationTable} {fields : List (String × List AtomTuple)}
    (hnodup : (fields.map (·.1)).Nodup) (hnew : ∀ field ∈ fields, field.1 ∉ t.labels)
    {label : String} {tuples : List AtomTuple} (hmem : (label, tuples) ∈ fields) :
    (t.addAll fields).get label = tuples := by
  induction fields generalizing t with
  | nil => simp at hmem
  | cons field fields ih =>
      rw [List.map_cons, List.nodup_cons] at hnodup
      rw [addAll, List.foldl_cons, ← addAll]
      rcases List.mem_cons.1 hmem with rfl | hmem
      · rw [get, lookup_addAll_of_notMem hnodup.1, add,
          lookup_append_self (hnew _ List.mem_cons_self), Option.getD_some]
      · refine ih hnodup.2 (fun other hother hknown => ?_) hmem
        rw [labels, add, mem_labels_append] at hknown
        rcases hknown with heq | hknown
        · exact hnodup.1 (List.mem_map.2 ⟨other, hother, heq⟩)
        · exact hnew other (List.mem_cons_of_mem _ hother) hknown

/-! ## The relations of engine output -/

theorem filterMap_documentOrder_tupleElement (labels : List String) :
    (tupleElement labels).documentOrder.filterMap labelledField? = [] := by
  rw [List.filterMap_eq_nil_iff]
  intro e he
  rw [tupleElement, Element.documentOrder, Element.documentOrderOfAll_eq_flatMap] at he
  rcases List.mem_cons.1 he with rfl | he
  · rfl
  · obtain ⟨child, hchild, he⟩ := List.mem_flatMap.1 he
    obtain ⟨label, -, rfl⟩ := List.mem_map.1 hchild
    simp only [atomElement, Element.documentOrder, Element.documentOrderOfAll,
      List.mem_singleton] at he
    rw [he]
    rfl

theorem tupleOf_tupleElement (labels : List String) :
    tupleOf (tupleElement labels) = labels.map cleanLabel := by
  have hatoms : (labels.map atomElement).filter (·.name == "atom") = labels.map atomElement := by
    rw [List.filter_eq_self]
    intro e he
    obtain ⟨label, -, rfl⟩ := List.mem_map.1 he
    rfl
  rw [tupleOf, Element.childrenNamed, tupleElement, hatoms, List.filterMap_map,
    ← List.filterMap_eq_map]
  rfl

/-- The element of a relation is read as its label and tuples. -/
theorem labelledField?_fieldElement (field : String × List (List String)) :
    labelledField? (fieldElement field) = some (field.1, field.2.map (·.map cleanLabel)) := by
  have htuples : (field.2.map tupleElement).filter (·.name == "tuple") =
      field.2.map tupleElement := by
    rw [List.filter_eq_self]
    intro e he
    obtain ⟨labels, -, rfl⟩ := List.mem_map.1 he
    rfl
  rw [labelledField?, fieldElement, if_pos rfl, Element.childrenNamed, htuples, List.map_map]
  simp [Element.attribute?, Function.comp_def, tupleOf_tupleElement]

theorem filterMap_documentOrder_fieldElement (field : String × List (List String)) :
    (fieldElement field).documentOrder.filterMap labelledField? =
      [(field.1, field.2.map (·.map cleanLabel))] := by
  have htuples : ((field.2.map tupleElement).flatMap Element.documentOrder).filterMap
      labelledField? = [] := by
    rw [List.filterMap_flatMap, List.flatMap_eq_nil_iff]
    intro e he
    obtain ⟨labels, -, rfl⟩ := List.mem_map.1 he
    exact filterMap_documentOrder_tupleElement labels
  have hfield := labelledField?_fieldElement field
  rw [fieldElement] at hfield ⊢
  rw [Element.documentOrder, Element.documentOrderOfAll_eq_flatMap, List.filterMap_cons, hfield,
    htuples]

/-- The relations of engine output are those of its fields. -/
theorem ofElement_outputElement (root : String) (fields : List (String × List (List String))) :
    ofElement (outputElement root fields) =
      addAll ∅ (fields.map fun field => (field.1, field.2.map (·.map cleanLabel))) := by
  have hroot : labelledField? (outputElement root fields) = none := by
    rw [labelledField?]
    split <;> rfl
  have hfields : ((fields.map fieldElement).flatMap Element.documentOrder).filterMap
      labelledField? = fields.map fun field => (field.1, field.2.map (·.map cleanLabel)) := by
    rw [List.filterMap_flatMap, List.flatMap_map]
    simp only [filterMap_documentOrder_fieldElement, ← List.map_eq_flatMap]
  rw [ofElement, Element.walk_eq_documentOrder, addAll]
  rw [outputElement] at hroot ⊢
  rw [Element.documentOrder, Element.documentOrderOfAll_eq_flatMap, List.filterMap_cons, hroot,
    hfields]

/-- Engine output that is written down is read back. -/
theorem ofText_of_isWritten {root : String} {fields : List (String × List (List String))}
    (hroot : IsWord root.toList) (hfields : ∀ field ∈ fields, IsPlainValue field.1)
    (hlabels : ∀ field ∈ fields, ∀ labels ∈ field.2, ∀ label ∈ labels, IsPlainValue label)
    {text : String} (h : (outputElement root fields).IsWritten text) :
    ofText text =
      .ok (addAll ∅ (fields.map fun field => (field.1, field.2.map (·.map cleanLabel)))) := by
  have hheight : (outputElement root fields).height ≤ Markup.maxDepth + 1 :=
    (height_outputElement_le root fields).trans (by decide)
  obtain ⟨e, hread, hsame⟩ :=
    Element.ofText_of_isWritten h (isPlain_outputElement hroot hfields hlabels) hheight
  rw [ofText, hread]
  show Except.ok (ofElement e) = _
  rw [← ofElement_unplaced, hsame, ofElement_unplaced, ofElement_outputElement]

end RelationTable

end ZoneGuard
