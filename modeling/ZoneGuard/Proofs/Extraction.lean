import Mathlib
import ZoneGuard.Proofs.RelationTable

/-!
# What is extracted from a document

The table of a document has the labels of its fields, under each label the tuples of all
fields with that label in document order, and no other tuples.  It is filled along the
walk over the document, which comes to every element once.
-/

namespace ZoneGuard

open Markup (Element)

def Markup.Element.IsField (e : Element) (label : String) : Prop :=
  e.name = "field" ∧ e.attribute? "label" = some label

instance (e : Element) (label : String) : Decidable (e.IsField label) :=
  inferInstanceAs (Decidable (_ ∧ _))

/-- The tuples that stand in the element, whether it is a field or not. -/
def Markup.Element.tupleElements (e : Element) : List Element := e.childrenNamed "tuple"

/-- The tuple of an element: the cleaned labels of the atoms in it that have one. -/
def Markup.Element.cleanedLabels (tuple : Element) : AtomTuple :=
  ((tuple.childrenNamed "atom").filterMap (·.attribute? "label")).map cleanLabel

namespace RelationTable

/-- The table has the tuples of the fields among the elements, in their order, and none
besides. -/
structure HasFieldsOf (t : RelationTable) (elements : List Element) : Prop where
  contains_iff : ∀ label, t.contains label = true ↔ ∃ e ∈ elements, e.IsField label
  get_eq : ∀ label, t.get label =
    (elements.filter (·.IsField label)).flatMap (·.tupleElements.map (·.cleanedLabels))
  tupleCount_eq : t.tupleCount =
    ((elements.filter fun e => e.name = "field" ∧ (e.attribute? "label").isSome).flatMap
      (·.tupleElements)).length

/-! ## Counting tuples -/

/-- Appending under a label adds its tuples and drops none. -/
theorem length_flatMap_append (label : String) (tuples : List AtomTuple)
    (relations : List (String × List AtomTuple)) :
    ((append label tuples relations).flatMap (·.2)).length =
      (relations.flatMap (·.2)).length + tuples.length := by
  induction relations with
  | nil => simp [append]
  | cons relation relations ih =>
      obtain ⟨known, knownTuples⟩ := relation
      unfold append
      split
      · simp only [List.flatMap_cons, List.length_append]
        omega
      · split
        · simp only [List.flatMap_cons, List.length_append]
          omega
        · simp only [List.flatMap_cons, List.length_append, ih]
          omega

/-- Tuples are counted as often as they are added. -/
theorem tupleCount_addAll (t : RelationTable) (fields : List (String × List AtomTuple)) :
    (t.addAll fields).tupleCount = t.tupleCount + (fields.flatMap (·.2)).length := by
  induction fields generalizing t with
  | nil => rfl
  | cons field fields ih =>
      have hadd : (t.add field.1 field.2).tupleCount = t.tupleCount + field.2.length :=
        length_flatMap_append field.1 field.2 t.relations
      rw [addAll, List.foldl_cons, ← addAll, ih, hadd, List.flatMap_cons, List.length_append,
        Nat.add_assoc]

/-! ## The fields of a document -/

/-- The fields that are read are those with a label. -/
theorem length_flatMap_labelledField? (es : List Element) :
    ((es.filterMap labelledField?).flatMap (·.2)).length =
      ((es.filter fun e => e.name = "field" ∧ (e.attribute? "label").isSome).flatMap
        (·.tupleElements)).length := by
  induction es with
  | nil => rfl
  | cons e es ih =>
      rw [List.filterMap_cons, List.filter_cons]
      by_cases hlabelled : e.name = "field" ∧ (e.attribute? "label").isSome
      · obtain ⟨label, hlabel⟩ := Option.isSome_iff_exists.1 hlabelled.2
        have hfield : labelledField? e = some (label, (e.childrenNamed "tuple").map tupleOf) :=
          labelledField?_eq_some_iff.2 ⟨hlabelled.1, hlabel, rfl⟩
        rw [hfield, if_pos (decide_eq_true hlabelled), List.flatMap_cons, List.flatMap_cons,
          List.length_append, List.length_append, ih, List.length_map, Element.tupleElements]
      · have hfield : labelledField? e = none := by
          rw [Option.eq_none_iff_forall_ne_some]
          intro field hfield
          obtain ⟨hname, hlabel, -⟩ := labelledField?_eq_some_iff.1 hfield
          exact hlabelled ⟨hname, hlabel ▸ rfl⟩
        rw [hfield, if_neg (by simpa using hlabelled), ih]

/-- The table of a document has the fields of the elements that the walk comes to. -/
theorem hasFieldsOf_ofElement (root : Element) : (ofElement root).HasFieldsOf root.walk where
  contains_iff label := by
    rw [contains, List.contains_iff_mem, ofElement, ← addAll, mem_labels_addAll]
    constructor
    · rintro (hempty | hlabel)
      · cases hempty
      · obtain ⟨field, hfield, rfl⟩ := List.mem_map.1 hlabel
        obtain ⟨e, he, hread⟩ := List.mem_filterMap.1 hfield
        obtain ⟨hname, hlabel, -⟩ := labelledField?_eq_some_iff.1 hread
        exact ⟨e, he, hname, hlabel⟩
    · rintro ⟨e, he, hname, hlabel⟩
      have hread : labelledField? e = some (label, (e.childrenNamed "tuple").map tupleOf) :=
        labelledField?_eq_some_iff.2 ⟨hname, hlabel, rfl⟩
      exact Or.inr (List.mem_map.2 ⟨_, List.mem_filterMap.2 ⟨e, he, hread⟩, rfl⟩)
  get_eq label := by
    have htuples (e : Element) :
        (e.childrenNamed "tuple").map tupleOf = e.tupleElements.map (·.cleanedLabels) :=
      List.map_congr_left fun tuple _ => tupleOf_eq_map tuple
    rw [ofElement, ← addAll, get_addAll_eq isOrdered_empty, flatMap_labelledField?]
    simp only [htuples]
    rfl
  tupleCount_eq := by
    rw [ofElement, ← addAll, tupleCount_addAll, length_flatMap_labelledField?]
    exact Nat.zero_add _

/-- A text with a root is decoded to the table of the root's fields.  They are taken in
document order, and none is left out or taken twice. -/
theorem hasFieldsOf_of_ofText {output : String} {root : Element}
    (h : Element.ofText output = .ok root) :
    ∃ t addresses, ofText output = .ok t ∧ root.IsDocumentOrder addresses ∧
      root.walk.map some = addresses.map root.at? ∧ t.HasFieldsOf root.walk := by
  obtain ⟨addresses, horder, hwalk⟩ := root.exists_isDocumentOrder_walk
  exact ⟨ofElement root, addresses, ofText_eq_ok_iff.2 ⟨root, h, rfl⟩, horder, hwalk,
    hasFieldsOf_ofElement root⟩

/-- The root is a field that holds a tuple, another field with its label, a field without
a label, and a field without tuples. -/
def nestedFields : String :=
  "<field label='F'><tuple><atom label='a$0'/><atom/></tuple><field label='F'><tuple>"
    ++ "<atom label='x/b'/></tuple><tuple/></field><field><tuple/></field>"
    ++ "<sig><field label='G'/></sig></field>"

theorem hasFieldsOf_of_ofText_nestedFields :
    ∃ root t addresses, Element.ofText nestedFields = .ok root ∧ ofText nestedFields = .ok t ∧
      root.IsDocumentOrder addresses ∧ root.walk.map some = addresses.map root.at? ∧
      t.HasFieldsOf root.walk ∧ t.get "F" = [["a"], ["b"], []] ∧ t.contains "G" = true ∧
      t.get "G" = [] ∧ t.tupleCount = 3 := by
  have hread : (Element.ofText nestedFields).toOption.map (fun root =>
      ((ofElement root).get "F", (ofElement root).contains "G", (ofElement root).get "G",
        (ofElement root).tupleCount)) = some ([["a"], ["b"], []], true, [], 3) := by
    decide +kernel
  cases hroot : Element.ofText nestedFields with
  | error e =>
      rw [hroot] at hread
      cases hread
  | ok root =>
      obtain ⟨t, addresses, ht, horder, hwalk, hfields⟩ := hasFieldsOf_of_ofText hroot
      obtain ⟨root', hroot', rfl⟩ := ofText_eq_ok_iff.1 ht
      cases hroot.symm.trans hroot'
      rw [hroot] at hread
      have hvalues := Option.some.inj hread
      simp only [Prod.mk.injEq] at hvalues
      exact ⟨root, _, addresses, rfl, ht, horder, hwalk, hfields, hvalues⟩

end RelationTable

end ZoneGuard
