import ZoneGuard.Identifier
import ZoneGuard.Markup.Element

/-!
# Relations in engine output

An engine writes each relation as an element `field` with a label, which has one element `tuple` for
each tuple, and in that one element `atom` for each atom. Elements of these names count wherever
they stand in the document. Tuples of fields with one label are joined in document order. A field
without a label is passed over, and so is an atom without one.
-/

namespace ZoneGuard

/-- A tuple of a relation: the cleaned labels of its atoms. -/
abbrev AtomTuple := List String

/-- Relations by label, in the order of the labels. -/
structure RelationTable where
  relations : List (String × List AtomTuple)
deriving DecidableEq, Repr

namespace RelationTable

instance : EmptyCollection RelationTable := ⟨⟨[]⟩⟩

def append (label : String) (tuples : List AtomTuple) :
    List (String × List AtomTuple) → List (String × List AtomTuple)
  | [] => [(label, tuples)]
  | (other, known) :: rest =>
    if label = other then (other, known ++ tuples) :: rest
    else if label < other then (label, tuples) :: (other, known) :: rest
    else (other, known) :: append label tuples rest

def add (t : RelationTable) (label : String) (tuples : List AtomTuple) : RelationTable :=
  ⟨append label tuples t.relations⟩

def labels (t : RelationTable) : List String := t.relations.map (·.1)

def contains (t : RelationTable) (label : String) : Bool := t.labels.contains label

/-- The tuples of a label; none if there is no such relation. -/
def get (t : RelationTable) (label : String) : List AtomTuple :=
  (t.relations.lookup label).getD []

def tupleCount (t : RelationTable) : Nat := (t.relations.flatMap (·.2)).length

def isEmpty (t : RelationTable) : Bool := t.relations.isEmpty

end RelationTable

open Markup (Element)

def tupleOf (e : Element) : AtomTuple :=
  (e.childrenNamed "atom").filterMap fun a => (a.attribute? "label").map cleanLabel

/-- The label and the tuples of an element `field`, if it has a label. -/
def labelledField? (e : Element) : Option (String × List AtomTuple) :=
  if e.name = "field" then
    (e.attribute? "label").map fun label => (label, (e.childrenNamed "tuple").map tupleOf)
  else none

def RelationTable.ofElement (root : Element) : RelationTable :=
  (root.walk.filterMap labelledField?).foldl (fun t field => t.add field.1 field.2) ∅

/-- Engine output that is no document, and the place where that shows. -/
structure DecodeError where
  offset : Nat
  detail : String
deriving DecidableEq, Repr

def DecodeError.message (e : DecodeError) : String :=
  "malformed engine output at byte " ++ toString e.offset ++ ": " ++ e.detail

def RelationTable.ofText (output : String) : Except DecodeError RelationTable :=
  match Element.ofText output with
  | .error e => .error ⟨e.offset, e.fault.message⟩
  | .ok root => .ok (.ofElement root)

end ZoneGuard
