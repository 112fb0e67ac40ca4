import Mathlib
import ZoneGuard.Proofs.Identifier
import ZoneGuard.Proofs.Text.Pieces
import ZoneGuard.Spec.Instance

/-!
# Values of fields in a specification

Every value that a fact binds a field to determines what it stands for: atoms
of enumerations and of entities, truth values, and unions of atoms up to
repeats.  None of them holds a line feed.
-/

namespace ZoneGuard

open Attribute (atom)
open Text (IsLine isLine_append isLine_intercalate_iff)

/-! ## Members of enumerations -/

/-- An enumeration whose members can be told apart by their atoms, which are
words. -/
class LawfulAttribute (α : Type) [Attribute α] : Prop where
  find?_atom : ∀ a : α, (Attribute.all : List α).find? (fun b => atom b == atom a) = some a
  isWordChar_atom : ∀ a : α, (atom a).toList.all isWordChar = true

instance : LawfulAttribute Grade where
  find?_atom := by intro a; cases a <;> rfl
  isWordChar_atom := by intro a; cases a <;> decide

instance : LawfulAttribute ZoneType where
  find?_atom := by intro a; cases a <;> rfl
  isWordChar_atom := by intro a; cases a <;> decide

instance : LawfulAttribute ContentType where
  find?_atom := by intro a; cases a <;> rfl
  isWordChar_atom := by intro a; cases a <;> decide

instance : LawfulAttribute SystemType where
  find?_atom := by intro a; cases a <;> rfl
  isWordChar_atom := by intro a; cases a <;> decide

instance : LawfulAttribute AuthType where
  find?_atom := by intro a; cases a <;> rfl
  isWordChar_atom := by intro a; cases a <;> decide

instance : LawfulAttribute Isolation where
  find?_atom := by intro a; cases a <;> rfl
  isWordChar_atom := by intro a; cases a <;> decide

instance : LawfulAttribute PatchStatus where
  find?_atom := by intro a; cases a <;> rfl
  isWordChar_atom := by intro a; cases a <;> decide

instance : LawfulAttribute LifeCycle where
  find?_atom := by intro a; cases a <;> rfl
  isWordChar_atom := by intro a; cases a <;> decide

instance : LawfulAttribute SessionPolicy where
  find?_atom := by intro a; cases a <;> rfl
  isWordChar_atom := by intro a; cases a <;> decide

instance : LawfulAttribute Protocol where
  find?_atom := by intro a; cases a <;> rfl
  isWordChar_atom := by intro a; cases a <;> decide

theorem isLine_of_isWordChar {s : String} (h : ∀ c ∈ s.toList, isWordChar c = true) :
    IsLine s :=
  notMem_of_isWordChar h (by decide)

section Attributes

variable {α : Type} [Attribute α] [LawfulAttribute α]

@[simp]
theorem atom_inj {a b : α} : atom a = atom b ↔ a = b := by
  constructor
  · intro heq
    have ha := LawfulAttribute.find?_atom a
    rw [heq, LawfulAttribute.find?_atom b] at ha
    exact (Option.some.inj ha).symm
  · rintro rfl
    rfl

@[simp]
theorem isLine_atom (a : α) : IsLine (atom a) :=
  isLine_of_isWordChar (List.all_eq_true.1 (LawfulAttribute.isWordChar_atom a))

end Attributes

/-! ## Truth values and atoms of entities -/

@[simp]
theorem flagAtom_inj {a b : Bool} : flagAtom a = flagAtom b ↔ a = b := by
  cases a <;> cases b <;> decide

@[simp]
theorem isLine_flagAtom (b : Bool) : IsLine (flagAtom b) := by
  cases b <;> decide

@[simp]
theorem isLine_atomLabel (kind : EntityKind) (id : Identifier) : IsLine (kind.atomLabel id) :=
  isLine_of_isWordChar (kind.isWordChar_of_mem_atomLabel id)

/-! ## Sets -/

@[simp]
theorem isLine_setExpression (kind : EntityKind) (ids : List Identifier) :
    IsLine (setExpression kind ids) := by
  unfold setExpression
  split
  · decide
  · refine (isLine_intercalate_iff (by decide)).2 fun word hword => ?_
    obtain ⟨id, -, rfl⟩ := List.mem_map.1 hword
    exact isLine_atomLabel kind id

theorem eraseDups_eq_nil_iff {α : Type} [BEq α] {l : List α} : l.eraseDups = [] ↔ l = [] := by
  cases l with
  | nil => simp
  | cons a l => simp [List.eraseDups_cons]

/-- A set that is not empty is written as the sum of its atoms. -/
theorem setExpression_of_ne_nil {kind : EntityKind} {ids : List Identifier} (h : ids ≠ []) :
    setExpression kind ids = " + ".intercalate (ids.eraseDups.map kind.atomLabel) := by
  have hempty : ids.isEmpty = false := by
    simpa using h
  simp [setExpression, hempty]

/-- The union of no atoms is not the union of some. -/
theorem setExpression_ne_none (kind : EntityKind) {ids : List Identifier} (h : ids ≠ []) :
    setExpression kind ids ≠ "none" := by
  obtain ⟨id, rest, hids⟩ := List.exists_cons_of_ne_nil (mt eraseDups_eq_nil_iff.1 h)
  rw [setExpression_of_ne_nil h, hids, List.map_cons]
  intro heq
  have hchars := Text.toList_intercalate_append " + "
    (List.cons_ne_nil (kind.atomLabel id) (rest.map kind.atomLabel))
  rw [heq, List.flatMap_cons, EntityKind.toList_atomLabel] at hchars
  have hhead := congrArg List.head? hchars
  cases kind <;> simp [EntityKind.atomPrefix, EntityKind.signature] at hhead

/-- A union determines its members up to repeats. -/
@[simp]
theorem setExpression_inj {kind : EntityKind} {ids ids' : List Identifier} :
    setExpression kind ids = setExpression kind ids' ↔ ids.eraseDups = ids'.eraseDups := by
  by_cases h : ids = []
  · subst h
    by_cases h' : ids' = []
    · simp [h']
    · have hne := (setExpression_ne_none kind h').symm
      have hnone : setExpression kind [] = "none" := rfl
      simp [hnone, hne, eq_comm (a := ([] : List Identifier)), eraseDups_eq_nil_iff, h']
  · by_cases h' : ids' = []
    · subst h'
      have hne := setExpression_ne_none kind h
      have hnone : setExpression kind [] = "none" := rfl
      simp [hnone, hne, eraseDups_eq_nil_iff, h]
    · rw [setExpression_of_ne_nil h, setExpression_of_ne_nil h']
      constructor
      · intro heq
        have hwords : ∀ {l : List Identifier}, ∀ word ∈ l.map kind.atomLabel,
            ' ' ∉ word.toList := by
          intro l word hword
          obtain ⟨id, -, rfl⟩ := List.mem_map.1 hword
          exact notMem_of_isWordChar (kind.isWordChar_of_mem_atomLabel id) (by decide)
        have hmap := Text.intercalate_injOn " + " rfl hwords hwords
          (by simpa [eraseDups_eq_nil_iff] using h) (by simpa [eraseDups_eq_nil_iff] using h')
          heq
        have hinjective : Function.Injective kind.atomLabel :=
          fun _ _ h => (atomLabel_inj.1 h).2
        exact List.map_injective_iff.2 hinjective hmap
      · intro heq
        rw [heq]

end ZoneGuard
