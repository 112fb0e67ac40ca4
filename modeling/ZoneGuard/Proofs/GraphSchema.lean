import Mathlib
import ZoneGuard.Proofs.Graph.Fault
import ZoneGuard.Proofs.Json.Schema
import ZoneGuard.Proofs.Payload

/-!
# The schema of graph payloads

The schema asks for what an entity has to give, under any of the names of a field.
It does not ask that a field be given under one of its names only, and such a payload
is refused although the schema accepts it.  Every other error of an accepted payload
is about ids that cannot be told apart, or about a reference to an entity that is not
declared.
-/

namespace ZoneGuard

open Json (Value Record RecordType Schema ShapeError)
open Json.Schema

/-! ## The schema -/

def idSchema : Schema := ofTypes [.string, .integer]

def flagSchema : Schema :=
  oneOf
    [ofTypes [.boolean],
     all [ofTypes [.integer], numbers [0, 1]],
     all [ofTypes [.string],
       texts ["true", "True", "TRUE", "1", "yes", "Yes", "false", "False", "FALSE", "0", "no",
         "No"]],
     ofTypes [.null]]

/-- The name of a member of an enumeration, be it known or not. -/
def nameSchema : Schema := ofTypes [.string, .null]

def referencesSchema : Schema :=
  oneOf [all [ofTypes [.array], items idSchema], ofTypes [.string], ofTypes [.null]]

def locationSchema : Schema :=
  all
    [ofTypes [.object],
     required ["id"],
     properties [("id", idSchema), ("grade", nameSchema), ("type", nameSchema)]]

def dataSchema : Schema :=
  all
    [ofTypes [.object],
     required ["id"],
     properties
       [("id", idSchema), ("grade", nameSchema), ("fileType", nameSchema),
        ("contentType", nameSchema)]]

/-- A system, with its zone under the one or the other name. -/
def systemSchema : Schema :=
  all
    [ofTypes [.object],
     required ["id"],
     anyOf [required ["location"], required ["loc"]],
     properties
       [("id", idSchema), ("grade", nameSchema), ("location", idSchema), ("loc", idSchema),
        ("type", nameSchema), ("authType", nameSchema), ("isCDS", flagSchema),
        ("isRegistered", flagSchema), ("is_registered", flagSchema),
        ("isStorageEncrypted", flagSchema), ("isManagement", flagSchema),
        ("isolation", nameSchema), ("hasMDM", flagSchema), ("patchStatus", nameSchema),
        ("patch_status", nameSchema), ("lifeCycle", nameSchema), ("eol_status", nameSchema),
        ("hasAuditLogging", flagSchema), ("audit_log", flagSchema),
        ("hasSecureClock", flagSchema), ("ntp_sync", flagSchema), ("sessionPolicy", nameSchema),
        ("session_policy", nameSchema), ("stores", referencesSchema)]]

def connectionSchema : Schema :=
  all
    [ofTypes [.object],
     required ["from", "to"],
     properties
       [("id", idSchema), ("from", idSchema), ("to", idSchema), ("carries", referencesSchema),
        ("protocol", nameSchema), ("isEncrypted", flagSchema), ("hasCDR", flagSchema),
        ("hasDLP", flagSchema), ("hasAntiVirus", flagSchema)]]

def graphSchema : Schema :=
  all
    [ofTypes [.object],
     properties
       [("locations", list locationSchema), ("data", list dataSchema),
        ("systems", list systemSchema), ("connections", list connectionSchema)]]

/-! ## Records of accepted entities -/

theorem isSome_idText?_of_idSchema {v : Value} (h : idSchema v = true) :
    (idText? v).isSome := by
  cases v with
  | string s => rfl
  | number n => rfl
  | _ => cases h

/-- An id is read from a field if the schema describes all its names as ids. -/
theorem isSome_text_of_properties (t : RecordType) {described : List (String × Schema)}
    {members : List (String × Value)} (h : properties described (.object members) = true)
    {name : String} (hids : ∀ spelling ∈ t.spellings name,
      described.lookup spelling = some idSchema)
    (hgiven : name ∈ t.fieldNames members) :
    (((t.recordOf members).field? name).bind idText?).isSome :=
  t.isSome_text_of_mem_fieldNames hgiven fun m hm hspelled =>
    isSome_idText?_of_idSchema (of_properties h hm (hids m.1 hspelled))

theorem mem_fieldNames_of_required (t : RecordType) {names : List String}
    {members : List (String × Value)} (h : required names (.object members) = true)
    {spelling name : String} (hspelling : spelling ∈ names)
    (hname : t.fieldName? spelling = some name) : name ∈ t.fieldNames members := by
  obtain ⟨v, hmem⟩ := exists_of_required h hspelling
  exact List.mem_filterMap.2 ⟨_, hmem, hname⟩

/-- An entity that has to give an id gives one. -/
theorem isSome_id?_of_required (t : RecordType) (hname : t.fieldName? "id" = some "id")
    (hspellings : t.spellings "id" = ["id"]) {described : List (String × Schema)}
    (hid : described.lookup "id" = some idSchema) {members : List (String × Value)}
    (hproperties : properties described (.object members) = true)
    (hrequired : required ["id"] (.object members) = true) :
    (t.recordOf members).id?.isSome := by
  refine isSome_text_of_properties t hproperties ?_
    (mem_fieldNames_of_required t hrequired List.mem_cons_self hname)
  rw [hspellings]
  exact List.forall_mem_singleton.2 hid

theorem isSome_id?_of_locationSchema {members : List (String × Value)}
    (h : locationSchema (.object members) = true) :
    (locationRecord.recordOf members).id?.isSome := by
  simp only [locationSchema, all_cons_iff] at h
  exact isSome_id?_of_required locationRecord rfl rfl rfl h.2.2.1 h.2.1

theorem isSome_id?_of_dataSchema {members : List (String × Value)}
    (h : dataSchema (.object members) = true) : (dataRecord.recordOf members).id?.isSome := by
  simp only [dataSchema, all_cons_iff] at h
  exact isSome_id?_of_required dataRecord rfl rfl rfl h.2.2.1 h.2.1

theorem isSome_id?_of_systemSchema {members : List (String × Value)}
    (h : systemSchema (.object members) = true) :
    (systemRecord.recordOf members).id?.isSome := by
  simp only [systemSchema, all_cons_iff] at h
  exact isSome_id?_of_required systemRecord rfl rfl rfl h.2.2.2.1 h.2.1

/-- A system that fits the schema names a zone. -/
theorem isSome_reference?_of_systemSchema {members : List (String × Value)}
    (h : systemSchema (.object members) = true) :
    ((systemRecord.recordOf members).reference? .location).isSome := by
  simp only [systemSchema, all_cons_iff] at h
  obtain ⟨-, -, hplaced, hproperties, -⟩ := h
  have hgiven : "location" ∈ systemRecord.fieldNames members := by
    obtain ⟨alternative, halternative, hrequired⟩ := List.any_eq_true.1 hplaced
    rcases List.mem_pair.1 halternative with rfl | rfl
    · exact mem_fieldNames_of_required _ hrequired List.mem_cons_self rfl
    · exact mem_fieldNames_of_required _ hrequired List.mem_cons_self rfl
  refine isSome_text_of_properties systemRecord hproperties (fun spelling hspelling => ?_) hgiven
  rcases List.mem_pair.1 hspelling with rfl | rfl
  · rfl
  · rfl

/-! ## Accepted payloads -/

/-- An accepted list makes records of accepted objects. -/
theorem exists_lists_of_list (t : RecordType) {schema : Schema}
    (hobject : ∀ v, schema v = true → ofTypes [.object] v = true) {list? : Option Value}
    (h : ∀ v ∈ list?, list schema v = true) :
    ∃ rs, t.Lists list? rs ∧
      ∀ r ∈ rs, ∃ members, schema (.object members) = true ∧ r = t.recordOf members := by
  cases list? with
  | none => exact ⟨[], .absent, nofun⟩
  | some v =>
      rcases list_cases (h v rfl) with rfl | ⟨vs, rfl, hitems⟩
      · exact ⟨[], .null, nofun⟩
      · obtain ⟨objects, rfl⟩ := exists_map_object fun v hv => hobject v (hitems v hv)
        refine ⟨_, .objects objects, fun r hr => ?_⟩
        obtain ⟨members, hmembers, rfl⟩ := List.mem_map.1 hr
        exact ⟨members, hitems _ (List.mem_map_of_mem hmembers), rfl⟩

/-- A list that is described is accepted. -/
theorem list_of_member? {described : List (String × Schema)} {v : Value}
    (h : properties described v = true) (name : String) {schema : Schema}
    (hname : described.lookup name = some (list schema)) :
    ∀ w ∈ v.member? name, list schema w = true := by
  intro w hw
  cases v with
  | object members =>
      obtain ⟨before, after, rfl, -⟩ := List.lookup_eq_some_iff.1 hw
      exact of_properties h (List.mem_append_right _ List.mem_cons_self) hname
  | _ => cases hw

/-- An accepted value makes a payload in which ids and zones are given. -/
theorem exists_payload_of_graphSchema {v : Value} (h : graphSchema v = true) :
    ∃ p : Payload, p.IsGivenBy v ∧
      (∀ kind, kind ≠ .connection → ∀ r ∈ p.records kind, r.id?.isSome) ∧
      ∀ r ∈ p.systems, (r.reference? .location).isSome := by
  simp only [graphSchema, all_cons_iff] at h
  obtain ⟨hobject, hproperties, -⟩ := h
  obtain ⟨locations, hlocations, hlocation⟩ := exists_lists_of_list locationRecord
    (fun v hv => (all_cons_iff.1 hv).1) (list_of_member? hproperties "locations" rfl)
  obtain ⟨data, hdata, hasset⟩ := exists_lists_of_list dataRecord
    (fun v hv => (all_cons_iff.1 hv).1) (list_of_member? hproperties "data" rfl)
  obtain ⟨systems, hsystems, hsystem⟩ := exists_lists_of_list systemRecord
    (fun v hv => (all_cons_iff.1 hv).1) (list_of_member? hproperties "systems" rfl)
  obtain ⟨connections, hconnections, -⟩ := exists_lists_of_list connectionRecord
    (fun v hv => (all_cons_iff.1 hv).1) (list_of_member? hproperties "connections" rfl)
  refine ⟨⟨locations, data, systems, connections⟩,
    ⟨exists_object hobject, hlocations, hdata, hsystems, hconnections⟩, fun kind hkind r hr => ?_,
    fun r hr => ?_⟩
  · cases kind with
    | location =>
        obtain ⟨members, hmembers, rfl⟩ := hlocation r hr
        exact isSome_id?_of_locationSchema hmembers
    | data =>
        obtain ⟨members, hmembers, rfl⟩ := hasset r hr
        exact isSome_id?_of_dataSchema hmembers
    | system =>
        obtain ⟨members, hmembers, rfl⟩ := hsystem r hr
        exact isSome_id?_of_systemSchema hmembers
    | connection => exact absurd rfl hkind
  · obtain ⟨members, hmembers, rfl⟩ := hsystem r hr
    exact isSome_reference?_of_systemSchema hmembers

namespace Graph

/-- What an accepted value is refused for, if it is: a field that is given twice, and
nothing else if there is one, or else ids and references of its records. -/
theorem ofJson_eq_error_of_graphSchema {v : Value} (h : graphSchema v = true) :
    ∃ p : Payload, p.IsGivenBy v ∧
      (¬ IsSinglySpelled v → ∃ name, ofJson v = .error (.shape (.duplicateField name))) ∧
      (IsSinglySpelled v → ∀ e, ofJson v = .error e → p.HasFault e ∧
        ((∃ kind raw, e = .duplicateId kind raw) ∨
          (∃ kind first second safe, e = .idCollision kind first second safe) ∨
          ∃ kind raw field target, e = .danglingReference kind raw field target)) := by
  obtain ⟨p, hp, hid, hplaced⟩ := exists_payload_of_graphSchema h
  refine ⟨p, hp, fun hspelled => ?_, fun hspelled e herror => ?_⟩
  · obtain ⟨name, hname⟩ := hp.read_eq_error hspelled
    exact ⟨name, by rw [ofJson, hname]⟩
  · rw [ofJson, hp.read_eq_ok hspelled] at herror
    have hfault := hasFault_of_ofPayload herror
    have hconflict {kind : EntityKind} {existing raw : String} {e : GraphError}
        (he : e = .conflict kind existing raw) :
        (∃ kind raw, e = .duplicateId kind raw) ∨
          ∃ kind first second safe, e = .idCollision kind first second safe := by
      rcases GraphError.conflict_cases kind existing raw with hsame | hother
      · exact Or.inl ⟨_, _, he.trans hsame⟩
      · exact Or.inr ⟨_, _, _, _, he.trans hother⟩
    refine ⟨hfault, ?_⟩
    cases hfault with
    | missingId kind hsplit hnone hkind =>
        have hsome := hid kind hkind _ (hsplit ▸ List.mem_append_right _ List.mem_cons_self)
        rw [hnone] at hsome
        cases hsome
    | missingLocation hr _ hnone =>
        have hsome := hplaced _ hr
        rw [hnone] at hsome
        cases hsome
    | conflict => exact (hconflict rfl).imp_right Or.inl
    | referenceConflict => exact (hconflict rfl).imp_right Or.inl
    | undeclaredLocation => exact Or.inr (Or.inr ⟨_, _, _, _, rfl⟩)
    | undeclaredEnd => exact Or.inr (Or.inr ⟨_, _, _, _, rfl⟩)

/-- A system in a zone that is not declared. -/
def unplacedPayload : Value :=
  .object
    [("locations", .null),
     ("systems", .array
      [.object
        [("id", .ofNat 1), ("isCDS", .string "yes"), ("loc", .string "z"),
         ("stores", .array [.ofNat 2])]])]

theorem ofJson_eq_error_of_graphSchema_unplacedPayload :
    graphSchema unplacedPayload = true ∧ IsSinglySpelled unplacedPayload ∧
      ∃ p : Payload, p.IsGivenBy unplacedPayload ∧
        p.HasFault (.danglingReference .system "1" .location "z") := by
  have hvalid : graphSchema unplacedPayload = true := by decide +kernel
  have herror : ofJson unplacedPayload =
      .error (.danglingReference .system "1" .location "z") := rfl
  obtain ⟨p, hp, htwice, honce⟩ := ofJson_eq_error_of_graphSchema hvalid
  have hspelled : IsSinglySpelled unplacedPayload := by
    by_contra hspelled
    obtain ⟨name, hname⟩ := htwice hspelled
    rw [herror] at hname
    cases hname
  exact ⟨hvalid, hspelled, p, hp, (honce hspelled _ herror).1⟩

/-- A system that gives its zone under both names. -/
def doublyPlacedPayload : Value :=
  .object
    [("locations", .array [.object [("id", .string "z")]]),
     ("systems", .array
      [.object [("id", .string "s"), ("loc", .string "z"), ("location", .string "z")]])]

/-- The schema accepts the payload, although it is refused for its shape. -/
theorem duplicateField_doublyPlacedPayload :
    graphSchema doublyPlacedPayload = true ∧
      ofJson doublyPlacedPayload = .error (.shape (.duplicateField "location")) :=
  ⟨by decide +kernel, rfl⟩

end Graph

end ZoneGuard
