import Mathlib
import ZoneGuard.Json.Record

/-!
# Members of records

Members that give no field twice are read as the fields with their values, under
whichever of its names a field is given.  What a field has then depends neither on
the order of the members nor on those without a field.
-/

namespace ZoneGuard.Json

/-! ## Looking up a name -/

section Lookup

variable {α : Type} (before after : List (String × α)) {name key : String}

theorem lookup_append_cons_of_ne (h : name ≠ key) (a : α) :
    (before ++ (key, a) :: after).lookup name = (before ++ after).lookup name := by
  rw [List.lookup_append, List.lookup_append, List.lookup_cons, beq_false_of_ne h]

/-- Two lists that differ in what one entry has differ under its name only, and only
in this. -/
theorem lookup_append_cons_cases (name key : String) (a b : α) :
    (before ++ (key, a) :: after).lookup name = (before ++ (key, b) :: after).lookup name ∨
      name = key ∧ (before ++ (key, a) :: after).lookup name = some a ∧
        (before ++ (key, b) :: after).lookup name = some b := by
  simp only [List.lookup_append, List.lookup_cons]
  cases hbefore : before.lookup name with
  | some c => exact Or.inl rfl
  | none =>
      by_cases hname : name = key
      · subst hname
        exact Or.inr ⟨rfl, by simp, by simp⟩
      · rw [beq_false_of_ne hname]
        exact Or.inl rfl

/-- Entries of different names may stand in any order. -/
theorem lookup_eq_of_perm {ms ms' : List (String × α)} (h : ms.Perm ms')
    (hnodup : (ms.map Prod.fst).Nodup) (name : String) : ms.lookup name = ms'.lookup name := by
  induction h with
  | nil => rfl
  | cons m _ ih =>
      rw [List.map_cons, List.nodup_cons] at hnodup
      rw [List.lookup_cons, List.lookup_cons, ih hnodup.2]
  | swap m m' ms =>
      obtain ⟨key, a⟩ := m
      obtain ⟨key', a'⟩ := m'
      have hne : key' ≠ key := by
        rw [List.map_cons, List.map_cons, List.nodup_cons] at hnodup
        exact fun heq => hnodup.1 (heq ▸ List.mem_cons_self)
      simp only [List.lookup_cons]
      by_cases hname : name = key
      · rw [beq_false_of_ne (hname.trans_ne hne.symm)]
      · rw [beq_false_of_ne hname]
  | trans h _ ih ih' =>
      exact (ih hnodup).trans (ih' ((h.map Prod.fst).nodup_iff.1 hnodup))

end Lookup

/-! ## Fields and their values -/

namespace RecordType

variable (t : RecordType)

def fieldNames (members : List (String × Value)) : List String :=
  members.filterMap fun m => t.fieldName? m.1

def fieldValues (members : List (String × Value)) : List (String × Value) :=
  members.filterMap fun m => (t.fieldName? m.1).map fun name => (name, m.2)

/-- Fields are given member by member. -/
theorem fieldNames_append (before after : List (String × Value)) :
    t.fieldNames (before ++ after) = t.fieldNames before ++ t.fieldNames after :=
  List.filterMap_append

theorem fieldValues_append (before after : List (String × Value)) :
    t.fieldValues (before ++ after) = t.fieldValues before ++ t.fieldValues after :=
  List.filterMap_append

theorem fieldNames_cons (key : String) (v : Value) (members : List (String × Value)) :
    t.fieldNames ((key, v) :: members) = (t.fieldName? key).toList ++ t.fieldNames members := by
  rw [fieldNames, fieldNames, List.filterMap_cons]
  cases t.fieldName? key <;> rfl

theorem fieldValues_cons (key : String) (v : Value) (members : List (String × Value)) :
    t.fieldValues ((key, v) :: members) =
      ((t.fieldName? key).map fun name => (name, v)).toList ++ t.fieldValues members := by
  rw [fieldValues, fieldValues, List.filterMap_cons]
  cases t.fieldName? key <;> rfl

theorem map_fst_fieldValues (members : List (String × Value)) :
    (t.fieldValues members).map Prod.fst = t.fieldNames members := by
  induction members with
  | nil => rfl
  | cons m members ih =>
      rw [fieldValues_cons, fieldNames_cons, List.map_append, ih]
      cases t.fieldName? m.1 <;> rfl

/-- Members that give different fields are read as these fields. -/
theorem ofMembers_of_nodup {known : List String} {members : List (String × Value)}
    (hknown : known.Disjoint (t.fieldNames members)) (hnodup : (t.fieldNames members).Nodup) :
    t.ofMembers known members = .ok (t.fieldValues members) := by
  induction members generalizing known with
  | nil => rfl
  | cons m members ih =>
      rw [fieldNames_cons] at hknown hnodup
      rw [ofMembers, fieldValues_cons]
      cases hname : t.fieldName? m.1 with
      | none =>
          rw [hname] at hknown hnodup
          exact ih hknown hnodup
      | some name =>
          rw [hname] at hknown hnodup
          obtain ⟨hfresh, hrest⟩ := List.nodup_cons.1 hnodup
          obtain ⟨hunknown, hdisjoint⟩ := List.disjoint_cons_right.1 hknown
          have hcontains : known.contains name = false := by simpa using hunknown
          have htail := @ih (name :: known)
            (List.disjoint_cons_left.2 ⟨hfresh, hdisjoint⟩) hrest
          simp only [hcontains, htail]
          rfl

/-- An object is read if no field is given twice. -/
theorem read_object_of_nodup {members : List (String × Value)}
    (h : (t.fieldNames members).Nodup) :
    t.read (.object members) = .ok ⟨t.fieldValues members⟩ := by
  rw [read, t.ofMembers_of_nodup (List.disjoint_nil_left _) h]

theorem readItems_cons (v : Value) (vs : List Value) : t.readItems (v :: vs) =
    (do
      let r ← t.read v
      let rs ← t.readItems vs
      return r :: rs) := by
  rw [readItems]
  cases t.read v with
  | error e => rfl
  | ok r => cases t.readItems vs <;> rfl

theorem zip_append_cons {names : List String} (before after : List Value) (v : Value)
    (h : before.length < names.length) : names.zip (before ++ v :: after) =
      (names.take before.length).zip before ++
        (names[before.length], v) :: (names.drop (before.length + 1)).zip after := by
  have hlength : (names.take before.length).length = before.length :=
    List.length_take_of_le h.le
  calc
    names.zip (before ++ v :: after)
      = (names.take before.length ++ names.drop before.length).zip (before ++ v :: after) := by
        rw [List.take_append_drop]
    _ = (names.take before.length).zip before ++
          (names.drop before.length).zip (v :: after) := List.zip_append hlength
    _ = _ := by rw [List.drop_eq_getElem_cons h, List.zip_cons_cons]

end RecordType

end ZoneGuard.Json
