import Mathlib
import ZoneGuard.Proofs.Json.Record
import ZoneGuard.Proofs.Respelling.Value

/-!
# Other spellings of an entity

An entity is an object, whose keys may be older names of fields, or an array of the
fields in their order.  A rewrite of an entity that gives no field twice leaves what
is read from each field.
-/

namespace ZoneGuard

open Json (Value Record RecordType ShapeError)

/-- A rewrite of an entity: another name for a key, another order of the keys, one
more key, or a rewrite of one value. -/
inductive EntityRewrite (t : RecordType) : Value → Value → Prop where
  | rename (before after : List (String × Value)) {key key' : String} (v : Value)
      (h : t.fieldName? key = t.fieldName? key') :
      EntityRewrite t (.object (before ++ (key, v) :: after))
        (.object (before ++ (key', v) :: after))
  | reorder {members members' : List (String × Value)} (h : members.Perm members') :
      EntityRewrite t (.object members) (.object members')
  | addKey (before after : List (String × Value)) {key : String} (v : Value)
      (h : t.fieldName? key = none) :
      EntityRewrite t (.object (before ++ after)) (.object (before ++ (key, v) :: after))
  | value (before after : List (String × Value)) {key : String} {v v' : Value}
      (h : ValueRewrite ((t.fieldName? key).map fieldUse) v v') :
      EntityRewrite t (.object (before ++ (key, v) :: after))
        (.object (before ++ (key, v') :: after))
  | item (before after : List Value) {v v' : Value}
      (h : ValueRewrite (t.fields[before.length]?.map fun f => fieldUse f.name) v v') :
      EntityRewrite t (.array (before ++ v :: after)) (.array (before ++ v' :: after))

/-- The entity gives no field twice, be it under one name or under two. -/
def Json.RecordType.IsSinglySpelled (t : RecordType) (e : Value) : Prop :=
  ∀ members, e = .object members → (t.fieldNames members).Nodup

theorem isSinglySpelled_object {t : RecordType} {members : List (String × Value)} :
    t.IsSinglySpelled (.object members) ↔ (t.fieldNames members).Nodup := by
  constructor
  · intro h
    exact h members rfl
  · rintro h _ ⟨⟩
    exact h

/-- A rewrite neither adds nor removes a field that is given twice. -/
theorem EntityRewrite.isSinglySpelled_iff {t : RecordType} {e e' : Value}
    (h : EntityRewrite t e e') : t.IsSinglySpelled e ↔ t.IsSinglySpelled e' := by
  cases h with
  | rename before after v h =>
      simp only [isSinglySpelled_object, t.fieldNames_append, t.fieldNames_cons, h]
  | reorder h =>
      rw [isSinglySpelled_object, isSinglySpelled_object]
      exact (h.filterMap _).nodup_iff
  | addKey before after v h =>
      simp only [isSinglySpelled_object, t.fieldNames_append, t.fieldNames_cons, h]
      exact Iff.rfl
  | value before after h =>
      simp only [isSinglySpelled_object, t.fieldNames_append, t.fieldNames_cons]
  | item => exact iff_of_true nofun nofun

/-! ## What the fields have -/

namespace Json.Record

/-- The same is read from every field of two records. -/
def Agrees (r r' : Record) : Prop :=
  ∀ name, (fieldUse name).Agree (r.field? name) (r'.field? name)

theorem agrees_refl (r : Record) : r.Agrees r :=
  fun _ => FieldUse.agree_refl _ _

section Uses

variable {r r' : Record} {name : String} (h : r.Agrees r')
include h

theorem Agrees.bind_idText?_eq (hname : fieldUse name = .id) :
    (r.field? name).bind idText? = (r'.field? name).bind idText? := by
  have hagree := h name
  rwa [hname] at hagree

theorem Agrees.id?_eq : r.id? = r'.id? :=
  h.bind_idText?_eq rfl

/-- Records that agree refer to the same data. -/
theorem Agrees.referenceTexts_eq (hname : fieldUse name = .references) :
    referenceTexts (r.field? name) = referenceTexts (r'.field? name) := by
  have hagree := h name
  rwa [hname] at hagree

/-- Records that agree have the same attributes. -/
theorem Agrees.attributeOr_eq {α : Type} [Attribute α] [Attribute.Unambiguous α]
    (hname : fieldUse name = .member) (default : α) :
    attributeOr default (r.field? name) = attributeOr default (r'.field? name) := by
  have hagree := h name
  rw [hname] at hagree
  exact hagree default

/-- Records that agree have the same flags. -/
theorem Agrees.flagOr_eq (hname : fieldUse name = .flag) (default : Bool) :
    flagOr default (r.field? name) = flagOr default (r'.field? name) := by
  have hagree := h name
  rw [hname] at hagree
  exact hagree default

end Uses

theorem field?_of_lookup {values : List (String × Value)} {name : String} {v : Value}
    (h : values.lookup name = some v) (hv : v ≠ .null) :
    Record.field? ⟨values⟩ name = some v := by
  rw [Record.field?, h]
  cases v with
  | null => exact absurd rfl hv
  | _ => rfl

theorem agrees_of_lookup {values values' : List (String × Value)}
    (h : ∀ name, values.lookup name = values'.lookup name) :
    Record.Agrees ⟨values⟩ ⟨values'⟩ := by
  intro name
  have hfield : Record.field? ⟨values⟩ name = Record.field? ⟨values'⟩ name := by
    rw [Record.field?, Record.field?, h]
  rw [hfield]
  exact FieldUse.agree_refl _ _

/-- A value that is rewritten leaves records in agreement. -/
theorem agrees_append_cons (before after : List (String × Value)) {name : String}
    {v v' : Value} (h : ValueRewrite (some (fieldUse name)) v v') :
    Record.Agrees ⟨before ++ (name, v) :: after⟩ ⟨before ++ (name, v') :: after⟩ := by
  intro other
  rcases Json.lookup_append_cons_cases before after other name v v' with
    hsame | ⟨rfl, hv, hv'⟩
  · rw [Record.field?, Record.field?, hsame]
    exact FieldUse.agree_refl _ _
  · rw [field?_of_lookup hv h.ne_null.1, field?_of_lookup hv' h.ne_null.2]
    exact h.agree

end Json.Record

/-! ## Reading -/

/-- Two values are read with related results: both are read, or both are refused in the
same words. -/
inductive ReadAlike {α : Type} (R : α → α → Prop) :
    Except ShapeError α → Except ShapeError α → Prop where
  | error {e e' : ShapeError} (h : e.message = e'.message) : ReadAlike R (.error e) (.error e')
  | ok {a a' : α} (h : R a a') : ReadAlike R (.ok a) (.ok a')

theorem ReadAlike.refl {α : Type} {R : α → α → Prop} (hR : ∀ a, R a a)
    (read : Except ShapeError α) : ReadAlike R read read := by
  cases read with
  | error e => exact .error rfl
  | ok a => exact .ok (hR a)

/-- Steps that are read alike go on alike. -/
theorem ReadAlike.bind {α β : Type} {R : α → α → Prop} {S : β → β → Prop}
    {read read' : Except ShapeError α} {f f' : α → Except ShapeError β}
    (h : ReadAlike R read read') (hf : ∀ a a', R a a' → ReadAlike S (f a) (f' a')) :
    ReadAlike S (read >>= f) (read' >>= f') := by
  cases h with
  | error h => exact .error h
  | ok h => exact hf _ _ h

section Reading

variable {t : RecordType}

theorem readAlike_object {members members' : List (String × Value)}
    (h : t.IsSinglySpelled (.object members)) (h' : t.IsSinglySpelled (.object members'))
    (hagrees : Record.Agrees ⟨t.fieldValues members⟩ ⟨t.fieldValues members'⟩) :
    ReadAlike Record.Agrees (t.read (.object members)) (t.read (.object members')) := by
  rw [t.read_object_of_nodup (isSinglySpelled_object.1 h),
    t.read_object_of_nodup (isSinglySpelled_object.1 h')]
  exact .ok hagrees

theorem readAlike_array (before after : List Value) {v v' : Value}
    (h : ValueRewrite (t.fields[before.length]?.map fun f => fieldUse f.name) v v') :
    ReadAlike Record.Agrees (t.read (.array (before ++ v :: after)))
      (t.read (.array (before ++ v' :: after))) := by
  have hlength : (before ++ v' :: after).length = (before ++ v :: after).length := by simp
  by_cases hmany : t.fields.length < (before ++ v :: after).length
  · simp only [RecordType.read, hlength, hmany, if_true]
    exact .error rfl
  · simp only [RecordType.read, hlength, hmany, if_false]
    have hfew : before.length < t.fields.length := by
      rw [List.length_append, List.length_cons] at hmany
      omega
    have hnames : before.length < (t.fields.map (·.name)).length := by
      rwa [List.length_map]
    rw [List.getElem?_eq_getElem hfew] at h
    rw [RecordType.zip_append_cons before after v hnames,
      RecordType.zip_append_cons before after v' hnames]
    refine .ok (Record.agrees_append_cons _ _ ?_)
    rw [List.getElem_map]
    exact h

/-- An entity is read alike before and after a rewrite. -/
theorem EntityRewrite.readAlike {e e' : Value} (h : EntityRewrite t e e')
    (he : t.IsSinglySpelled e) : ReadAlike Record.Agrees (t.read e) (t.read e') := by
  have he' := h.isSinglySpelled_iff.1 he
  cases h with
  | rename before after v h =>
      refine readAlike_object he he' (Record.agrees_of_lookup fun name => ?_)
      simp only [t.fieldValues_append, t.fieldValues_cons, h]
  | reorder h =>
      refine readAlike_object he he' (Record.agrees_of_lookup ?_)
      have hnodup := isSinglySpelled_object.1 he
      rw [← t.map_fst_fieldValues] at hnodup
      exact Json.lookup_eq_of_perm (h.filterMap _) hnodup
  | addKey before after v h =>
      refine readAlike_object he he' (Record.agrees_of_lookup fun name => ?_)
      simp only [t.fieldValues_append, t.fieldValues_cons, h]
      rfl
  | @value before after key v v' h =>
      refine readAlike_object he he' ?_
      simp only [t.fieldValues_append, t.fieldValues_cons]
      cases hname : t.fieldName? key with
      | none => exact Record.agrees_of_lookup fun _ => rfl
      | some name =>
          rw [hname] at h
          exact Record.agrees_append_cons _ _ h
  | item before after h => exact readAlike_array before after h

example : dataRecord.fieldName? "contentType" = some "fileType" ∧
    ["loc", "is_registered", "patch_status", "eol_status", "audit_log", "ntp_sync",
      "session_policy"].map systemRecord.fieldName? =
    [some "location", some "isRegistered", some "patchStatus", some "lifeCycle",
      some "hasAuditLogging", some "hasSecureClock", some "sessionPolicy"] := by
  decide +kernel

end Reading

end ZoneGuard
