import Mathlib
import ZoneGuard.Graph.Build
import ZoneGuard.Proofs.Respelling.Entity

/-!
# Other spellings of a payload

Rewrites of a payload, any number of them at any places, do not change the graph or
the error that comes of it, if no entity of the payload gives a field twice.  One
rewrite leaves what is read from the lists of the payload, and every part of a graph
is built from what is read.
-/

namespace ZoneGuard

open Json (Value Record RecordType)

/-- The lists of a payload, with the types of their entities. -/
def listRecords : List (String × RecordType) :=
  [("locations", locationRecord), ("data", dataRecord), ("systems", systemRecord),
    ("connections", connectionRecord)]

theorem lookup_listRecords : ∀ l ∈ listRecords, listRecords.lookup l.1 = some l.2 := by
  decide +kernel

/-- A rewrite of a member of the payload: of one entity, if it is a list of them, or one
more key of an object that is not an entity. -/
inductive MemberRewrite : Option RecordType → Value → Value → Prop where
  | entity {t : RecordType} (left right : List Value) {e e' : Value}
      (h : EntityRewrite t e e') :
      MemberRewrite (some t) (.array (left ++ e :: right)) (.array (left ++ e' :: right))
  | misplaced {t : RecordType} {members : List (String × Value)} {v' : Value}
      (h : AddsKey (.object members) v') : MemberRewrite (some t) (.object members) v'
  | other {v v' : Value} (h : AddsKey v v') : MemberRewrite none v v'

/-- A rewrite of a payload: of one member, or one more key, or one more key of an object
in what is not a payload at all. -/
inductive PayloadRewrite : Value → Value → Prop where
  | member (before after : List (String × Value)) {name : String} {v v' : Value}
      (h : MemberRewrite (listRecords.lookup name) v v') :
      PayloadRewrite (.object (before ++ (name, v) :: after))
        (.object (before ++ (name, v') :: after))
  | addKey (before after : List (String × Value)) {name : String} (v : Value)
      (h : listRecords.lookup name = none) :
      PayloadRewrite (.object (before ++ after)) (.object (before ++ (name, v) :: after))
  | notObject {items : List Value} {v' : Value} (h : AddsKey (.array items) v') :
      PayloadRewrite (.array items) v'

/-- No entity of the list gives a field twice. -/
def Json.RecordType.IsSinglySpelledList (t : RecordType) (list : Value) : Prop :=
  ∀ items, list = .array items → ∀ e ∈ items, t.IsSinglySpelled e

/-- No entity of the payload gives a field twice. -/
def IsSinglySpelled (payload : Value) : Prop :=
  ∀ l ∈ listRecords, ∀ list ∈ payload.member? l.1, l.2.IsSinglySpelledList list

/-! ## Lists -/

theorem AddsKey.exists_object {members : List (String × Value)} {v' : Value}
    (h : AddsKey (.object members) v') : ∃ members', v' = .object members' := by
  cases h <;> exact ⟨_, rfl⟩

theorem AddsKey.exists_array {items : List Value} {v' : Value}
    (h : AddsKey (.array items) v') : ∃ items', v' = .array items' := by
  cases h
  exact ⟨_, rfl⟩

/-- A rewrite of a payload leaves or rewrites each of the lists. -/
theorem PayloadRewrite.cases {v v' : Value} (h : PayloadRewrite v v') :
    (∃ members members', v = .object members ∧ v' = .object members' ∧
      ∀ l ∈ listRecords, members.lookup l.1 = members'.lookup l.1 ∨
        ∃ list list', members.lookup l.1 = some list ∧ members'.lookup l.1 = some list' ∧
          MemberRewrite (some l.2) list list') ∨
    ∃ items items', v = .array items ∧ v' = .array items' := by
  cases h with
  | @member before after name v v' h =>
      refine Or.inl ⟨_, _, rfl, rfl, fun l hl => ?_⟩
      refine (Json.lookup_append_cons_cases before after l.1 name v v').imp_right ?_
      rintro ⟨rfl, hlist, hlist'⟩
      exact ⟨v, v', hlist, hlist', lookup_listRecords l hl ▸ h⟩
  | @addKey before after name v h =>
      refine Or.inl ⟨_, _, rfl, rfl, fun l hl => Or.inl ?_⟩
      have hne : l.1 ≠ name := by
        rintro rfl
        cases h.symm.trans (lookup_listRecords l hl)
      exact (Json.lookup_append_cons_of_ne before after hne v).symm
  | notObject h =>
      obtain ⟨items', rfl⟩ := h.exists_array
      exact Or.inr ⟨_, _, rfl, rfl⟩

section Lists

variable {t : RecordType}

theorem isSinglySpelledList_array {items : List Value} :
    t.IsSinglySpelledList (.array items) ↔ ∀ e ∈ items, t.IsSinglySpelled e := by
  constructor
  · intro h
    exact h items rfl
  · rintro h _ ⟨⟩
    exact h

theorem isSinglySpelledList_object (members : List (String × Value)) :
    t.IsSinglySpelledList (.object members) := nofun

/-- A rewrite within a list neither adds nor removes a double spelling. -/
theorem MemberRewrite.isSinglySpelledList_iff {list list' : Value}
    (h : MemberRewrite (some t) list list') :
    t.IsSinglySpelledList list ↔ t.IsSinglySpelledList list' := by
  cases h with
  | entity left right h =>
      simp only [isSinglySpelledList_array, List.forall_mem_append, List.forall_mem_cons,
        h.isSinglySpelled_iff]
  | misplaced h =>
      obtain ⟨members', rfl⟩ := h.exists_object
      exact iff_of_true (isSinglySpelledList_object _) (isSinglySpelledList_object _)

/-- A rewrite of a payload neither adds nor removes a double spelling. -/
theorem PayloadRewrite.isSinglySpelled_iff {v v' : Value} (h : PayloadRewrite v v') :
    IsSinglySpelled v ↔ IsSinglySpelled v' := by
  rcases h.cases with ⟨members, members', rfl, rfl, hlists⟩ | ⟨items, items', rfl, rfl⟩
  · refine forall_congr' fun l => forall_congr' fun hl => ?_
    simp only [Value.member?]
    rcases hlists l hl with hsame | ⟨list, list', hlist, hlist', hrewrite⟩
    · rw [hsame]
    · simp only [hlist, hlist', Option.mem_some_iff, forall_eq']
      exact hrewrite.isSinglySpelledList_iff
  · exact iff_of_true nofun nofun

/-- Items that are read alike make lists that are read alike. -/
theorem readAlike_readItems {items items' : List Value}
    (h : List.Forall₂ (fun e e' => ReadAlike Record.Agrees (t.read e) (t.read e'))
      items items') :
    ReadAlike (List.Forall₂ Record.Agrees) (t.readItems items) (t.readItems items') := by
  induction h with
  | nil => exact .ok .nil
  | cons h _ ih =>
      rw [t.readItems_cons, t.readItems_cons]
      refine h.bind fun r r' hr => ih.bind fun rs rs' hrs => ?_
      exact .ok (.cons hr hrs)

theorem forall₂_agrees_refl (rs : List Record) : List.Forall₂ Record.Agrees rs rs :=
  List.forall₂_same.2 fun r _ => r.agrees_refl

/-- A list is read alike before and after a rewrite within it. -/
theorem MemberRewrite.readAlike {list list' : Value} (h : MemberRewrite (some t) list list')
    (hlist : t.IsSinglySpelledList list) :
    ReadAlike (List.Forall₂ Record.Agrees) (t.readList (some list))
      (t.readList (some list')) := by
  cases h with
  | @entity _ left right e e' h =>
      have he : t.IsSinglySpelled e := isSinglySpelledList_array.1 hlist e (by simp)
      have hsame (items : List Value) :
          List.Forall₂ (fun e e' => ReadAlike Record.Agrees (t.read e) (t.read e'))
            items items :=
        List.forall₂_same.2 fun e _ => .refl Record.agrees_refl (t.read e)
      exact readAlike_readItems
        (List.rel_append (hsame left) (.cons (h.readAlike he) (hsame right)))
  | misplaced h =>
      obtain ⟨members', rfl⟩ := h.exists_object
      exact .error rfl

end Lists

/-- The records of two payloads agree one by one. -/
structure Payload.Agrees (p p' : Payload) : Prop where
  locations : List.Forall₂ Record.Agrees p.locations p'.locations
  data : List.Forall₂ Record.Agrees p.data p'.data
  systems : List.Forall₂ Record.Agrees p.systems p'.systems
  connections : List.Forall₂ Record.Agrees p.connections p'.connections

/-- A payload is read alike before and after a rewrite. -/
theorem PayloadRewrite.readAlike {v v' : Value} (h : PayloadRewrite v v')
    (hv : IsSinglySpelled v) :
    ReadAlike Payload.Agrees (Payload.read v) (Payload.read v') := by
  rcases h.cases with ⟨members, members', rfl, rfl, hlists⟩ | ⟨items, items', rfl, rfl⟩
  · have hread (l : String × RecordType) (hl : l ∈ listRecords) :
        ReadAlike (List.Forall₂ Record.Agrees) (l.2.readList (members.lookup l.1))
          (l.2.readList (members'.lookup l.1)) := by
      rcases hlists l hl with hsame | ⟨list, list', hlist, hlist', hrewrite⟩
      · rw [hsame]
        exact .refl forall₂_agrees_refl _
      · rw [hlist, hlist']
        exact hrewrite.readAlike (hv l hl list hlist)
    have hlocations := hread ("locations", locationRecord) (by simp [listRecords])
    have hdata := hread ("data", dataRecord) (by simp [listRecords])
    have hsystems := hread ("systems", systemRecord) (by simp [listRecords])
    have hconnections := hread ("connections", connectionRecord) (by simp [listRecords])
    -- in the order in which the lists are looked at
    refine hconnections.bind fun connections connections' hconnections => ?_
    refine hdata.bind fun data data' hdata => ?_
    refine hlocations.bind fun locations locations' hlocations => ?_
    refine hsystems.bind fun systems systems' hsystems => ?_
    exact .ok ⟨hlocations, hdata, hsystems, hconnections⟩
  · exact .error rfl

end ZoneGuard
