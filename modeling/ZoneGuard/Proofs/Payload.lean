import Mathlib
import ZoneGuard.Proofs.Respelling.Payload

/-!
# Payloads with lists of objects

A payload whose lists hold nothing but objects can only be refused for a field that
an entity gives twice.  If no entity does, its records are the fields of the objects.
-/

namespace ZoneGuard

open Json (Value Record RecordType)

namespace Json.RecordType

variable (t : RecordType)

/-! ## Fields given twice -/

/-- A field that is given twice is refused. -/
theorem ofMembers_of_not_nodup (known : List String) {members : List (String × Value)}
    (h : ¬ (known.Disjoint (t.fieldNames members) ∧ (t.fieldNames members).Nodup)) :
    ∃ name, t.ofMembers known members = .error (.duplicateField name) := by
  induction members generalizing known with
  | nil => exact absurd ⟨List.disjoint_nil_right known, List.nodup_nil⟩ h
  | cons m members ih =>
      rw [fieldNames_cons] at h
      rw [ofMembers]
      cases hname : t.fieldName? m.1 with
      | none =>
          rw [hname] at h
          exact ih known h
      | some name =>
          rw [hname] at h
          cases hcontains : known.contains name with
          | true => exact ⟨name, by simp only [hcontains, if_true]⟩
          | false =>
              have hunknown : name ∉ known := by simpa using hcontains
              obtain ⟨twice, htwice⟩ := ih (name :: known) fun hrest => h <| by
                obtain ⟨hdisjoint, hnodup⟩ := hrest
                obtain ⟨hfresh, hdisjoint⟩ := List.disjoint_cons_left.1 hdisjoint
                exact ⟨List.disjoint_cons_right.2 ⟨hunknown, hdisjoint⟩,
                  List.nodup_cons.2 ⟨hfresh, hnodup⟩⟩
              exact ⟨twice, by simp only [hcontains, htwice]; rfl⟩

/-- An object that gives a field twice is refused for it. -/
theorem read_object_of_not_nodup {members : List (String × Value)}
    (h : ¬ (t.fieldNames members).Nodup) :
    ∃ name, t.read (.object members) = .error (.duplicateField name) := by
  obtain ⟨name, hname⟩ := t.ofMembers_of_not_nodup [] fun hboth => h hboth.2
  exact ⟨name, by rw [read, hname]⟩

/-! ## Records of objects -/

def recordOf (members : List (String × Value)) : Record := ⟨t.fieldValues members⟩

/-- The names under which a field can be given. -/
def spellings (name : String) : List String :=
  (t.fields.filter (·.name == name)).flatMap fun f => f.name :: f.olderNames

theorem mem_spellings_of_fieldName? {spelling name : String}
    (h : t.fieldName? spelling = some name) : spelling ∈ t.spellings name := by
  obtain ⟨f, hfind, rfl⟩ := Option.map_eq_some_iff.1 h
  have hspelled := List.find?_some hfind
  refine List.mem_flatMap.2
    ⟨f, List.mem_filter.2 ⟨List.mem_of_find?_eq_some hfind, beq_self_eq_true _⟩, ?_⟩
  rcases Bool.or_eq_true_iff.1 hspelled with hname | holder
  · exact List.mem_cons.2 (Or.inl (eq_of_beq hname).symm)
  · exact List.mem_cons_of_mem _ (List.contains_iff_mem.1 holder)

/-- A field that is given has the value of one of its spellings. -/
theorem exists_lookup_fieldValues {members : List (String × Value)} {name : String}
    (h : name ∈ t.fieldNames members) :
    ∃ m ∈ members, m.1 ∈ t.spellings name ∧
      (t.fieldValues members).lookup name = some m.2 := by
  induction members with
  | nil => cases h
  | cons m members ih =>
      rw [fieldNames_cons] at h
      rw [fieldValues_cons]
      by_cases hname : t.fieldName? m.1 = some name
      · refine ⟨m, List.mem_cons_self, t.mem_spellings_of_fieldName? hname, ?_⟩
        rw [hname]
        exact List.lookup_cons_self
      · have hrest : name ∈ t.fieldNames members := by
          refine (List.mem_append.1 h).resolve_left fun hfirst => hname ?_
          exact Option.mem_toList.1 hfirst
        obtain ⟨m', hm', hspelled, hlookup⟩ := ih hrest
        refine ⟨m', List.mem_cons_of_mem _ hm', hspelled, ?_⟩
        cases hother : t.fieldName? m.1 with
        | none => exact hlookup
        | some other =>
            have hne : (name == other) = false := by
              refine beq_false_of_ne fun heq => hname ?_
              rw [hother, heq]
            simpa [List.lookup_cons, hne] using hlookup

/-- The text of a field that is given as a text or number under any of its names. -/
theorem isSome_text_of_mem_fieldNames {members : List (String × Value)} {name : String}
    (h : name ∈ t.fieldNames members)
    (htexts : ∀ m ∈ members, m.1 ∈ t.spellings name → (idText? m.2).isSome) :
    (((t.recordOf members).field? name).bind idText?).isSome := by
  obtain ⟨⟨spelling, v⟩, hm, hspelled, hlookup⟩ := t.exists_lookup_fieldValues h
  have htext := htexts _ hm hspelled
  rw [Record.field?, recordOf, hlookup]
  cases v with
  | null => cases htext
  | _ => exact htext

/-! ## Lists of objects -/

/-- The list is absent, `null` or an array of objects, which make the records. -/
inductive Lists : Option Value → List Record → Prop where
  | absent : Lists none []
  | null : Lists (some .null) []
  | objects (items : List (List (String × Value))) :
      Lists (some (.array (items.map .object))) (items.map t.recordOf)

theorem readItems_of_nodup {items : List (List (String × Value))}
    (h : ∀ members ∈ items, (t.fieldNames members).Nodup) :
    t.readItems (items.map .object) = .ok (items.map t.recordOf) := by
  induction items with
  | nil => rfl
  | cons members items ih =>
      obtain ⟨hmembers, hitems⟩ := List.forall_mem_cons.1 h
      rw [List.map_cons, readItems_cons, t.read_object_of_nodup hmembers, ih hitems]
      rfl

theorem readItems_of_not_nodup {items : List (List (String × Value))}
    (h : ¬ ∀ members ∈ items, (t.fieldNames members).Nodup) :
    ∃ name, t.readItems (items.map .object) = .error (.duplicateField name) := by
  induction items with
  | nil => exact absurd nofun h
  | cons members items ih =>
      rw [List.forall_mem_cons] at h
      rw [List.map_cons, readItems_cons]
      by_cases hmembers : (t.fieldNames members).Nodup
      · obtain ⟨name, hname⟩ := ih fun hitems => h ⟨hmembers, hitems⟩
        exact ⟨name, by rw [t.read_object_of_nodup hmembers, hname]; rfl⟩
      · obtain ⟨name, hname⟩ := t.read_object_of_not_nodup hmembers
        exact ⟨name, by rw [hname]; rfl⟩

theorem isSinglySpelledList_objects {items : List (List (String × Value))} :
    t.IsSinglySpelledList (.array (items.map .object)) ↔
      ∀ members ∈ items, (t.fieldNames members).Nodup := by
  rw [isSinglySpelledList_array, List.forall_mem_map]
  exact forall₂_congr fun _ _ => isSinglySpelled_object

variable {t} {list? : Option Value} {rs : List Record}

/-- A list without fields given twice is read. -/
theorem Lists.readList_eq_ok (h : t.Lists list? rs)
    (hspelled : ∀ list ∈ list?, t.IsSinglySpelledList list) : t.readList list? = .ok rs := by
  cases h with
  | absent => rfl
  | null => rfl
  | objects items =>
      exact t.readItems_of_nodup (t.isSinglySpelledList_objects.1 (hspelled _ rfl))

theorem Lists.readList_cases (h : t.Lists list? rs) :
    (∀ list ∈ list?, t.IsSinglySpelledList list) ∧ t.readList list? = .ok rs ∨
      ∃ name, t.readList list? = .error (.duplicateField name) := by
  by_cases hspelled : ∀ list ∈ list?, t.IsSinglySpelledList list
  · exact Or.inl ⟨hspelled, h.readList_eq_ok hspelled⟩
  · right
    cases h with
    | absent => exact absurd nofun hspelled
    | null =>
        refine absurd ?_ hspelled
        rintro _ ⟨⟩
        exact nofun
    | objects items =>
        refine t.readItems_of_not_nodup fun hitems => hspelled ?_
        rintro _ ⟨⟩
        exact t.isSinglySpelledList_objects.2 hitems

end Json.RecordType

/-! ## Payloads -/

namespace Payload

/-- The value is an object whose lists are absent, `null` or arrays of objects, and
these objects make the records of the payload. -/
structure IsGivenBy (p : Payload) (v : Value) : Prop where
  isObject : ∃ members, v = .object members
  locations : locationRecord.Lists (v.member? "locations") p.locations
  data : dataRecord.Lists (v.member? "data") p.data
  systems : systemRecord.Lists (v.member? "systems") p.systems
  connections : connectionRecord.Lists (v.member? "connections") p.connections

variable {p : Payload} {v : Value}

/-- A payload is singly spelled exactly if each of its lists is. -/
theorem isSinglySpelled_iff : IsSinglySpelled v ↔
    (∀ list ∈ v.member? "locations", locationRecord.IsSinglySpelledList list) ∧
      (∀ list ∈ v.member? "data", dataRecord.IsSinglySpelledList list) ∧
      (∀ list ∈ v.member? "systems", systemRecord.IsSinglySpelledList list) ∧
      ∀ list ∈ v.member? "connections", connectionRecord.IsSinglySpelledList list := by
  simp [IsSinglySpelled, listRecords]

theorem IsGivenBy.read_eq_ok (h : p.IsGivenBy v) (hspelled : IsSinglySpelled v) :
    read v = .ok p := by
  obtain ⟨hlocations, hdata, hsystems, hconnections⟩ := isSinglySpelled_iff.1 hspelled
  obtain ⟨⟨members, rfl⟩, hl, hd, hs, hc⟩ := h
  have hl := hl.readList_eq_ok hlocations
  have hd := hd.readList_eq_ok hdata
  have hs := hs.readList_eq_ok hsystems
  have hc := hc.readList_eq_ok hconnections
  simp only [Value.member?] at hl hd hs hc
  rw [read, hl, hd, hs, hc]
  rfl

theorem IsGivenBy.read_eq_error (h : p.IsGivenBy v) (hspelled : ¬ IsSinglySpelled v) :
    ∃ name, read v = .error (.duplicateField name) := by
  rw [isSinglySpelled_iff] at hspelled
  obtain ⟨⟨members, rfl⟩, hl, hd, hs, hc⟩ := h
  simp only [Value.member?] at hl hd hs hc hspelled
  -- in the order in which the lists are looked at
  rcases hc.readList_cases with ⟨hconnections, hc⟩ | ⟨name, hname⟩
  swap
  · exact ⟨name, by rw [read, hname]; rfl⟩
  rcases hd.readList_cases with ⟨hdata, hd⟩ | ⟨name, hname⟩
  swap
  · exact ⟨name, by rw [read, hc, hname]; rfl⟩
  rcases hl.readList_cases with ⟨hlocations, hl⟩ | ⟨name, hname⟩
  swap
  · exact ⟨name, by rw [read, hc, hd, hname]; rfl⟩
  rcases hs.readList_cases with ⟨hsystems, -⟩ | ⟨name, hname⟩
  swap
  · exact ⟨name, by rw [read, hc, hd, hl, hname]; rfl⟩
  exact absurd ⟨hlocations, hdata, hsystems, hconnections⟩ hspelled

/-- A payload of the right shape is read exactly if it is singly spelled. -/
theorem IsGivenBy.read_eq_ok_iff (h : p.IsGivenBy v) : read v = .ok p ↔ IsSinglySpelled v := by
  refine ⟨fun hread => ?_, h.read_eq_ok⟩
  by_contra hspelled
  obtain ⟨name, herror⟩ := h.read_eq_error hspelled
  rw [hread] at herror
  cases herror

end Payload

end ZoneGuard
