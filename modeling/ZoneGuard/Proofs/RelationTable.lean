import Mathlib
import ZoneGuard.Proofs.EngineOutput
import ZoneGuard.Proofs.Text.ByteOrder

/-!
# Tables of relations

A table has its labels in order, each once, and adding tuples keeps it so.  Then
the tuples of a label are all that were ever added under it, in that order.  For
a document these are the tuples of its fields, and a tuple is known by the labels
that its atoms have in the document, before they are cleaned.
-/

namespace ZoneGuard

open Markup (Element)

namespace RelationTable

/-! ## Order -/

/-- The labels stand in order, each of them once. -/
def IsOrdered (t : RelationTable) : Prop := t.labels.Pairwise (· < ·)

theorem isOrdered_empty : IsOrdered ∅ := List.Pairwise.nil

theorem pairwise_labels_append {label : String} (tuples : List AtomTuple)
    {relations : List (String × List AtomTuple)}
    (h : (relations.map (·.1)).Pairwise (· < ·)) :
    ((append label tuples relations).map (·.1)).Pairwise (· < ·) := by
  induction relations with
  | nil => simp [append]
  | cons relation relations ih =>
      obtain ⟨known, knownTuples⟩ := relation
      obtain ⟨hknown, hrest⟩ := List.pairwise_cons.1 h
      unfold append
      split
      · exact h
      · next hne =>
        split
        · next hlt =>
          refine List.pairwise_cons.2 ⟨fun other hother => ?_, h⟩
          rcases List.mem_cons.1 hother with rfl | hother
          · exact hlt
          · exact hlt.trans (hknown other hother)
        · next hnotLt =>
          have hgt : known < label := lt_of_le_of_ne (not_lt.1 hnotLt) (Ne.symm hne)
          refine List.pairwise_cons.2 ⟨fun other hother => ?_, ih hrest⟩
          rcases (mem_labels_append tuples relations).1 hother with rfl | hother
          · exact hgt
          · exact hknown other hother

/-- Adding under a label keeps the labels in order. -/
theorem IsOrdered.add {t : RelationTable} (h : t.IsOrdered) (label : String)
    (tuples : List AtomTuple) : (t.add label tuples).IsOrdered :=
  pairwise_labels_append tuples h

theorem IsOrdered.addAll {t : RelationTable} (h : t.IsOrdered)
    (fields : List (String × List AtomTuple)) : (t.addAll fields).IsOrdered := by
  induction fields generalizing t with
  | nil => exact h
  | cons field fields ih => exact ih (h.add field.1 field.2)

/-- A table that is read has its labels in order. -/
theorem isOrdered_ofElement (root : Element) : (ofElement root).IsOrdered :=
  isOrdered_empty.addAll _

/-- The labels are in the order of their bytes. -/
theorem IsOrdered.pairwise_encode {t : RelationTable} (h : t.IsOrdered) :
    t.labels.Pairwise fun a b => Text.encode a < Text.encode b :=
  h.imp Text.encode_lt_encode_iff.2

/-! ## Tuples -/

theorem lookup_eq_none_of_forall_lt {label : String} {relations : List (String × List AtomTuple)}
    (h : ∀ other ∈ relations.map (·.1), label < other) : relations.lookup label = none := by
  rw [List.lookup_eq_none_iff]
  intro relation hrelation
  exact bne_iff_ne.2 (h relation.1 (List.mem_map_of_mem hrelation)).ne

/-- Tuples that are added under a label come behind those it has. -/
theorem getD_lookup_append_self {label : String} (tuples : List AtomTuple)
    {relations : List (String × List AtomTuple)}
    (h : (relations.map (·.1)).Pairwise (· < ·)) :
    ((append label tuples relations).lookup label).getD [] =
      (relations.lookup label).getD [] ++ tuples := by
  induction relations with
  | nil => simp [append]
  | cons relation relations ih =>
      obtain ⟨known, knownTuples⟩ := relation
      obtain ⟨hknown, hrest⟩ := List.pairwise_cons.1 h
      unfold append
      split
      · next heq =>
        subst heq
        simp
      · next hne =>
        split
        · next hlt =>
          -- The label is smaller than all there are, so it has no tuples yet.
          have hnone : ((known, knownTuples) :: relations).lookup label = none := by
            refine lookup_eq_none_of_forall_lt fun other hother => ?_
            rcases List.mem_cons.1 hother with rfl | hother
            · exact hlt
            · exact hlt.trans (hknown other hother)
          rw [List.lookup_cons_self, hnone, Option.getD_some, Option.getD_none, List.nil_append]
        · rw [List.lookup_cons, List.lookup_cons, beq_eq_false_iff_ne.2 hne]
          exact ih hrest

/-- Tuples are added behind those under the same label. -/
theorem get_add {t : RelationTable} (h : t.IsOrdered) (label other : String)
    (tuples : List AtomTuple) :
    (t.add label tuples).get other =
      t.get other ++ if label = other then tuples else [] := by
  split
  · next heq =>
    subst heq
    exact getD_lookup_append_self tuples h
  · next hne =>
    rw [get, add, lookup_append_of_ne (Ne.symm hne), List.append_nil, get]

/-- A label has all tuples that were added under it, in order. -/
theorem get_addAll_eq {t : RelationTable} (h : t.IsOrdered)
    (fields : List (String × List AtomTuple)) (label : String) :
    (t.addAll fields).get label =
      t.get label ++ (fields.filter (·.1 = label)).flatMap (·.2) := by
  induction fields generalizing t with
  | nil => simp [addAll]
  | cons field fields ih =>
      rw [addAll, List.foldl_cons, ← addAll, ih (h.add field.1 field.2), get_add h,
        List.append_assoc, List.filter_cons]
      split
      · next heq => simp [heq]
      · next hne => simp [hne]

end RelationTable

/-! ## Tuples as they are written -/

/-- The labels that the atoms of a tuple have in the document. -/
def writtenTuple (e : Element) : List String :=
  (e.childrenNamed "atom").filterMap (·.attribute? "label")

theorem tupleOf_eq_map (e : Element) : tupleOf e = (writtenTuple e).map cleanLabel := by
  rw [tupleOf, writtenTuple, List.map_filterMap]

/-- The tuples that a document has under a label, with the labels of their atoms
as they are written. -/
def Markup.Element.writtenTuples (root : Element) (label : String) : List (List String) :=
  (root.documentOrder.filter fun e => e.name = "field" ∧ e.attribute? "label" = some label).flatMap
    fun field => (field.childrenNamed "tuple").map writtenTuple

/-- An element is read as a relation exactly if it is a labelled field. -/
theorem labelledField?_eq_some_iff {e : Element} {field : String × List AtomTuple} :
    labelledField? e = some field ↔ e.name = "field" ∧ e.attribute? "label" = some field.1 ∧
      (e.childrenNamed "tuple").map tupleOf = field.2 := by
  obtain ⟨label, tuples⟩ := field
  rw [labelledField?]
  split
  · next hname => cases e.attribute? "label" <;> simp [hname]
  · next hname => simp [hname]

/-- The tuples of a label are those of its fields, one after the other. -/
theorem flatMap_labelledField? (es : List Element) (label : String) :
    ((es.filterMap labelledField?).filter (·.1 = label)).flatMap (·.2) =
      (es.filter fun e => e.name = "field" ∧ e.attribute? "label" = some label).flatMap
        fun field => (field.childrenNamed "tuple").map tupleOf := by
  induction es with
  | nil => rfl
  | cons e es ih =>
      rw [List.filterMap_cons, List.filter_cons]
      cases hfield : labelledField? e with
      | none =>
          have hother : ¬ (e.name = "field" ∧ e.attribute? "label" = some label) := by
            rintro ⟨hname, hlabel⟩
            have hsome : labelledField? e = some (label, (e.childrenNamed "tuple").map tupleOf) :=
              labelledField?_eq_some_iff.2 ⟨hname, hlabel, rfl⟩
            cases hfield.symm.trans hsome
          simp only [hother, decide_false, Bool.false_eq_true, if_false]
          exact ih
      | some field =>
          obtain ⟨hname, hlabel, htuples⟩ := labelledField?_eq_some_iff.1 hfield
          by_cases heq : field.1 = label
          · simp only [hname, hlabel, heq, List.filter_cons, and_self, decide_true, if_true,
              List.flatMap_cons, htuples, ih]
          · simp only [hname, hlabel, heq, List.filter_cons, true_and, Option.some.injEq,
              decide_false, Bool.false_eq_true, if_false, ih]

/-- The table of a document has the document's tuples with their labels cleaned. -/
theorem RelationTable.get_ofElement (root : Element) (label : String) :
    (ofElement root).get label = (root.writtenTuples label).map (·.map cleanLabel) := by
  rw [ofElement, Element.walk_eq_documentOrder, ← addAll, get_addAll_eq isOrdered_empty,
    flatMap_labelledField?, Element.writtenTuples, List.map_flatMap]
  simp only [List.map_map, Function.comp_def, ← tupleOf_eq_map]
  rfl

/-- Output has a table exactly if it is a document, and that of its root. -/
theorem RelationTable.ofText_eq_ok_iff {output : String} {t : RelationTable} :
    ofText output = .ok t ↔ ∃ root, Element.ofText output = .ok root ∧ ofElement root = t := by
  rw [ofText]
  cases Element.ofText output with
  | error e => simp
  | ok root => simp

end ZoneGuard
