import Mathlib
import ZoneGuard.Proofs.Graph.Contents

/-!
# Faults of a payload

A payload is refused for nothing but a fault that the error names: a record without
the id that it must have, two ids with one identifier, a system without a zone, or a
reference to an entity that is not declared.  Which ids are in use when a record is
refused is known from the records before it.
-/

namespace ZoneGuard

open Json (Value Record)

def Payload.records (p : Payload) : EntityKind → List Record
  | .location => p.locations
  | .data => p.data
  | .system => p.systems
  | .connection => p.connections

def Payload.ids (p : Payload) (kind : EntityKind) : List String :=
  (p.records kind).filterMap Record.id?

/-- The error for two ids with one identifier, the first of them being in use. -/
def GraphError.conflict (kind : EntityKind) (existing raw : String) : GraphError :=
  if existing = raw then .duplicateId kind raw
  else .idCollision kind existing raw (.ofText raw)

theorem GraphError.conflict_cases (kind : EntityKind) (existing raw : String) :
    conflict kind existing raw = .duplicateId kind raw ∨
      conflict kind existing raw = .idCollision kind existing raw (.ofText raw) :=
  ite_eq_or_eq _ _ _

/-- The payload has the fault that the error names. -/
inductive Payload.HasFault (p : Payload) : GraphError → Prop where
  | missingId (kind : EntityKind) {done rest : List Record} {r : Record}
      (hsplit : p.records kind = done ++ r :: rest) (hid : r.id? = none)
      (hkind : kind ≠ .connection) : p.HasFault (.missingId kind done.length)
  | conflict {kind : EntityKind} {done rest : List Record} {r r' : Record}
      {existing raw : String} (hsplit : p.records kind = done ++ r :: rest) (hr' : r' ∈ done)
      (hexisting : r'.AdmitsId existing) (hraw : r.AdmitsId raw)
      (hnormal : Identifier.ofText existing = Identifier.ofText raw) :
      p.HasFault (.conflict kind existing raw)
  | referenceConflict {existing raw : String} (hraw : raw ∈ p.dataTexts)
      (hexisting : existing ∈ p.ids .data ++ p.dataTexts) (hne : existing ≠ raw)
      (hnormal : Identifier.ofText existing = Identifier.ofText raw) :
      p.HasFault (.conflict .data existing raw)
  | missingLocation {r : Record} {raw : String} (hr : r ∈ p.systems) (hid : r.id? = some raw)
      (h : r.reference? .location = none) : p.HasFault (.missingLocation raw)
  | undeclaredLocation {r : Record} {raw zone : String} (hr : r ∈ p.systems)
      (hid : r.id? = some raw) (h : r.reference? .location = some zone)
      (hzone : zone ∉ p.ids .location) :
      p.HasFault (.danglingReference .system raw .location zone)
  | undeclaredEnd {r : Record} {raw : String} {field : ReferenceField} (hr : r ∈ p.connections)
      (hraw : r.AdmitsId raw) (hfield : field ≠ .location)
      (h : r.endText field ∉ p.ids .system) :
      p.HasFault (.danglingReference .connection raw field (r.endText field))

theorem admitsId_of_id? {r : Record} {raw : String} (h : r.id? = some raw) :
    r.AdmitsId raw := by
  intro given hgiven
  exact Option.some.inj (hgiven.symm.trans h)

/-! ## Errors of one step -/

theorem requiredId_eq_error_iff {kind : EntityKind} {index : Nat} {r : Record}
    {e : GraphError} :
    requiredId kind index r = .error e ↔ r.id? = none ∧ e = .missingId kind index := by
  unfold requiredId
  split
  · next h => simp [h]
  · next h => simp [h, eq_comm]

/-- An id is refused for another with its identifier, which may be the id itself. -/
theorem IdTable.Mirrors.conflict_of_register {kind : EntityKind} {t : IdTable}
    {ids : List EntityId} (h : t.Mirrors ids) {raw : String} {index : Nat} {e : GraphError}
    (hregister : register kind t raw index = .error e) :
    ∃ existing ∈ ids.map (·.raw), Identifier.ofText existing = Identifier.ofText raw ∧
      e = .conflict kind existing raw := by
  rcases register_eq_error_iff.1 hregister with ⟨hknown, rfl⟩ | ⟨hnew, existing, hexisting, rfl⟩
  · have hmem : raw ∈ ids.map (·.raw) := by
      by_contra hnotMem
      exact hknown ((h.safe?_eq_none_iff raw).2 hnotMem)
    exact ⟨raw, hmem, rfl, (if_pos rfl).symm⟩
  · have hentry := (h.raw_iff _ existing).1 hexisting
    have hmem : existing ∈ ids.map (·.raw) := List.mem_map_of_mem (f := (·.raw)) hentry
    have hne : existing ≠ raw := by
      rintro rfl
      exact (h.safe?_eq_none_iff existing).1 hnew hmem
    exact ⟨existing, hmem, (h.normalized _ hentry).symm, (if_neg hne).symm⟩

namespace Graph

theorem addLocation_eq_error {g : Graph} {index : Nat} {r : Record} {e : GraphError}
    (h : g.addLocation index r = .error e) :
    (r.id? = none ∧ e = .missingId .location index) ∨
      ∃ raw, r.id? = some raw ∧ register .location g.ids.locations raw index = .error e := by
  rcases except_bind_eq_error_iff.1 h with hid | ⟨raw, hraw, h⟩
  · exact Or.inl (requiredId_eq_error_iff.1 hid)
  rcases except_bind_eq_error_iff.1 h with hregister | ⟨result, -, h⟩
  · exact Or.inr ⟨raw, requiredId_eq_ok_iff.1 hraw, hregister⟩
  · cases h

theorem addData_eq_error {g : Graph} {index : Nat} {r : Record} {e : GraphError}
    (h : g.addData index r = .error e) :
    (r.id? = none ∧ e = .missingId .data index) ∨
      ∃ raw, r.id? = some raw ∧ register .data g.ids.data raw index = .error e := by
  rcases except_bind_eq_error_iff.1 h with hid | ⟨raw, hraw, h⟩
  · exact Or.inl (requiredId_eq_error_iff.1 hid)
  rcases except_bind_eq_error_iff.1 h with hregister | ⟨result, -, h⟩
  · exact Or.inr ⟨raw, requiredId_eq_ok_iff.1 hraw, hregister⟩
  · cases h

/-- A system is refused because of its id, its zone, or the data it stores. -/
theorem addSystem_eq_error {g : Graph} {index : Nat} {r : Record} {e : GraphError}
    (h : g.addSystem index r = .error e) :
    (r.id? = none ∧ e = .missingId .system index) ∨
      ∃ raw, r.id? = some raw ∧ (register .system g.ids.systems raw index = .error e ∨
        g.placement raw r = .error e ∨
        ∃ table, (g.withSystemTable table).referToAll r.storedTexts = .error e) := by
  rcases except_bind_eq_error_iff.1 h with hid | ⟨raw, hraw, h⟩
  · exact Or.inl (requiredId_eq_error_iff.1 hid)
  refine Or.inr ⟨raw, requiredId_eq_ok_iff.1 hraw, ?_⟩
  rcases except_bind_eq_error_iff.1 h with hregister | ⟨⟨safe, table⟩, -, h⟩
  · exact Or.inl hregister
  rcases except_bind_eq_error_iff.1 h with hlocation | ⟨location, -, h⟩
  · exact Or.inr (Or.inl hlocation)
  rcases except_bind_eq_error_iff.1 h with hstores | ⟨stores, -, h⟩
  · exact Or.inr (Or.inr ⟨table, hstores⟩)
  · cases h

/-- A system is refused for a zone that is not named or not there. -/
theorem placement_eq_error {g : Graph} {raw : String} {r : Record} {e : GraphError}
    (h : g.placement raw r = .error e) :
    (r.reference? .location = none ∧ e = .missingLocation raw) ∨
      ∃ zone, r.reference? .location = some zone ∧ g.ids.locations.safe? zone = none ∧
        e = .danglingReference .system raw .location zone := by
  unfold placement at h
  split at h
  · next hnone =>
    cases h
    exact Or.inl ⟨hnone, rfl⟩
  · next zone hzone =>
    split at h
    · cases h
    · next hunknown =>
      cases h
      exact Or.inr ⟨zone, hzone, hunknown, rfl⟩

/-- A connection is refused for an end that no system has. -/
theorem endpoint_eq_error {g : Graph} {raw : String} {field : ReferenceField} {r : Record}
    {e : GraphError} (h : g.endpoint raw field r = .error e) :
    g.ids.systems.safe? (r.endText field) = none ∧
      e = .danglingReference .connection raw field (r.endText field) := by
  simp only [endpoint] at h
  split at h
  · cases h
  · next hunknown =>
    cases h
    exact ⟨hunknown, rfl⟩

/-- A reference to data is refused for another id, declared or referred to, with the same
identifier. -/
theorem conflict_of_referToAll {g : Graph} {raws : List String} {e : GraphError}
    (hmirrors : g.ids.data.Mirrors (g.data.map (·.id))) (h : g.referToAll raws = .error e) :
    ∃ raw ∈ raws, ∃ existing ∈ g.data.map (·.id.raw) ++ raws, existing ≠ raw ∧
      Identifier.ofText existing = Identifier.ofText raw ∧ e = .conflict .data existing raw := by
  induction raws generalizing g with
  | nil => cases h
  | cons raw raws ih =>
      rcases except_bind_eq_error_iff.1 h with hfirst | ⟨⟨id, g₁⟩, hfirst, h⟩
      · unfold referToData at hfirst
        split at hfirst
        · cases hfirst
        · next hunknown =>
          rcases except_bind_eq_error_iff.1 hfirst with hregister | ⟨result, -, hfirst⟩
          · obtain ⟨existing, hmem, hnormal, rfl⟩ := hmirrors.conflict_of_register hregister
            have hne : existing ≠ raw := by
              rintro rfl
              exact (hmirrors.safe?_eq_none_iff existing).1 hunknown hmem
            rw [List.map_map] at hmem
            exact ⟨raw, List.mem_cons_self, existing, List.mem_append_left _ hmem, hne, hnormal,
              rfl⟩
          · cases hfirst
      · rcases except_bind_eq_error_iff.1 h with hrest | ⟨result, -, h⟩
        · obtain ⟨added, hdata, hadded⟩ := referToData_inferred hfirst
          obtain ⟨added', table, rfl, hmirrors₁, -, -⟩ := referToData_eq_ok hmirrors hfirst
          obtain ⟨raw', hraw', existing, hexisting, hrest⟩ := ih hmirrors₁ hrest
          refine ⟨raw', List.mem_cons_of_mem _ hraw', existing, ?_, hrest⟩
          rw [hdata, List.map_append, List.append_assoc, List.mem_append, List.mem_append]
            at hexisting
          rcases hexisting with hexisting | hexisting | hexisting
          · exact List.mem_append_left _ hexisting
          · obtain ⟨d, hd, rfl⟩ := List.mem_map.1 hexisting
            rw [hadded d hd]
            exact List.mem_append_right _ List.mem_cons_self
          · exact List.mem_append_right _ (List.mem_cons_of_mem _ hexisting)
        · cases h

/-! ## Faults -/

theorem exists_of_forall₂_of_mem {α β : Type} {R : α → β → Prop} {as : List α} {bs : List β}
    (h : List.Forall₂ R as bs) {a : α} (ha : a ∈ as) : ∃ b ∈ bs, R a b := by
  induction h with
  | nil => cases ha
  | cons hab _ ih =>
      rcases List.mem_cons.1 ha with rfl | ha
      · exact ⟨_, List.mem_cons_self, hab⟩
      · obtain ⟨b, hb, hR⟩ := ih ha
        exact ⟨b, List.mem_cons_of_mem _ hb, hR⟩

/-- Entities whose records all give an id have the given ids. -/
theorem map_eq_filterMap_id? {α : Type} {rawOf : α → String} {R : α → Record → Prop}
    {as : List α} {rs : List Record} (hR : ∀ r ∈ rs, ∀ a, R a r → r.id? = some (rawOf a))
    (h : List.Forall₂ R as rs) : as.map rawOf = rs.filterMap Record.id? := by
  induction h with
  | nil => rfl
  | cons hab _ ih =>
      obtain ⟨hfirst, hrest⟩ := List.forall_mem_cons.1 hR
      rw [List.map_cons, List.filterMap_cons_some (hfirst _ hab), ih hrest]

theorem id?_of_isGivenBy_location {l : Location} {r : Record} (h : l.IsGivenBy r) :
    r.id? = some l.id.raw := by
  obtain ⟨raw, hid, rfl⟩ := h
  exact hid

theorem id?_of_isGivenBy_data {d : DataAsset} {r : Record} (h : d.IsGivenBy r) :
    r.id? = some d.id.raw := by
  obtain ⟨raw, hid, rfl⟩ := h
  exact hid

theorem id?_of_isGivenBy_system {s : System} {r : Record} (h : s.IsGivenBy r) :
    r.id? = some s.id.raw := by
  obtain ⟨raw, zone, hid, -, rfl⟩ := h
  exact hid

namespace IsGivenBy

variable {g : Graph} {p : Payload}

theorem locationRaws_eq (h : g.IsGivenBy p) :
    g.locations.map (·.id.raw) = p.ids .location :=
  map_eq_filterMap_id? (fun _ _ _ => id?_of_isGivenBy_location) h.locations

theorem systemRaws_eq (h : g.IsGivenBy p) : g.systems.map (·.id.raw) = p.ids .system :=
  map_eq_filterMap_id? (fun _ _ _ => id?_of_isGivenBy_system) h.systems

/-- The ids of zones and systems that are known are those that are given. -/
theorem safe?_eq_none_iff (h : g.IsGivenBy p) {kind : EntityKind}
    (hkind : kind = .location ∨ kind = .system) (raw : String) :
    (g.ids.ofKind kind).safe? raw = none ↔ raw ∉ p.ids kind := by
  rw [(h.consistent.mirrors kind).safe?_eq_none_iff]
  rcases hkind with rfl | rfl
  · rw [entityIds, List.map_map, Function.comp_def, h.locationRaws_eq]
  · rw [entityIds, List.map_map, Function.comp_def, h.systemRaws_eq]

/-- Data assets are declared or referred to. -/
theorem dataRaws_subset (h : g.IsGivenBy p) :
    g.data.map (·.id.raw) ⊆ p.ids .data ++ p.dataTexts := by
  obtain ⟨declared, inferred, hdata, hdeclared, hinferred⟩ := h.data
  have hraws : declared.map (·.id.raw) = p.ids .data :=
    map_eq_filterMap_id? (fun _ _ _ => id?_of_isGivenBy_data) hdeclared
  rw [hdata, List.map_append, hraws]
  refine List.append_subset.2 ⟨List.subset_append_left _ _, fun raw hraw => ?_⟩
  obtain ⟨d, hd, rfl⟩ := List.mem_map.1 hraw
  obtain ⟨raw, htext, rfl⟩ := hinferred d hd
  exact List.mem_append_right _ htext

/-- The ids in use are those of the records, as long as no data asset is inferred. -/
theorem exists_record (h : g.IsGivenBy p) {kind : EntityKind}
    (hkind : kind = .data → p.dataTexts = []) {raw : String}
    (hmem : raw ∈ (g.entityIds kind).map (·.raw)) : ∃ r ∈ p.records kind, r.AdmitsId raw := by
  obtain ⟨id, hid, rfl⟩ := List.mem_map.1 hmem
  cases kind with
  | location =>
      obtain ⟨l, hl, rfl⟩ := List.mem_map.1 hid
      obtain ⟨r, hr, hlr⟩ := exists_of_forall₂_of_mem h.locations hl
      exact ⟨r, hr, admitsId_of_id? (id?_of_isGivenBy_location hlr)⟩
  | data =>
      obtain ⟨d, hd, rfl⟩ := List.mem_map.1 hid
      obtain ⟨r, hr, hdr⟩ := exists_of_forall₂_of_mem (h.data_of_nil (hkind rfl)) hd
      exact ⟨r, hr, admitsId_of_id? (id?_of_isGivenBy_data hdr)⟩
  | system =>
      obtain ⟨s, hs, rfl⟩ := List.mem_map.1 hid
      obtain ⟨r, hr, hsr⟩ := exists_of_forall₂_of_mem h.systems hs
      exact ⟨r, hr, admitsId_of_id? (id?_of_isGivenBy_system hsr)⟩
  | connection =>
      obtain ⟨c, hc, rfl⟩ := List.mem_map.1 hid
      obtain ⟨r, hr, raw, hraw, rfl⟩ := exists_of_forall₂_of_mem h.connections hc
      exact ⟨r, hr, hraw⟩

/-! The payload `q` is what has been read of `p` before the record `r`. -/

variable {q : Payload} {r : Record} {rest : List Record} {e : GraphError}

/-- An id that cannot be registered is a fault of the payload. -/
theorem hasFault_of_register (hg : g.IsGivenBy q) (kind : EntityKind)
    (hkind : kind = .data → q.dataTexts = [])
    (hsplit : p.records kind = q.records kind ++ r :: rest) {raw : String} {index : Nat}
    (hraw : r.AdmitsId raw)
    (h : register kind (g.ids.ofKind kind) raw index = .error e) : p.HasFault e := by
  obtain ⟨existing, hmem, hnormal, rfl⟩ := (hg.consistent.mirrors kind).conflict_of_register h
  obtain ⟨r', hr', hexisting⟩ := hg.exists_record hkind hmem
  exact .conflict hsplit hr' hexisting hraw hnormal

/-- A reference that cannot be settled is a fault of the payload. -/
theorem hasFault_of_referToAll (hg : g.IsGivenBy q) (g' : Graph) (hids : q.ids .data = p.ids .data)
    (htexts : q.dataTexts ⊆ p.dataTexts) (hdata : g'.data = g.data)
    (htable : g'.ids.data = g.ids.data) {raws : List String} (hraws : raws ⊆ p.dataTexts)
    (h : g'.referToAll raws = .error e) : p.HasFault e := by
  have hmirrors : g'.ids.data.Mirrors (g'.data.map (·.id)) := by
    rw [hdata, htable]
    exact hg.consistent.mirrors .data
  obtain ⟨raw, hraw, existing, hexisting, hne, hnormal, rfl⟩ := conflict_of_referToAll hmirrors h
  refine .referenceConflict (hraws hraw) ?_ hne hnormal
  rw [hdata] at hexisting
  rcases List.mem_append.1 hexisting with hexisting | hexisting
  · have hknown := hg.dataRaws_subset hexisting
    rw [hids] at hknown
    exact (List.mem_append.1 hknown).elim (List.mem_append_left _)
      fun htext => List.mem_append_right _ (htexts htext)
  · exact List.mem_append_right _ (hraws hexisting)

end IsGivenBy

/-! ## Errors of a payload -/

theorem storedTexts_subset {p : Payload} {r : Record} (hr : r ∈ p.systems) :
    r.storedTexts ⊆ p.dataTexts := fun _ hraw =>
  List.mem_append_left _ (List.mem_flatMap.2 ⟨r, hr, hraw⟩)

theorem carriedTexts_subset {p : Payload} {r : Record} (hr : r ∈ p.connections) :
    r.carriedTexts ⊆ p.dataTexts := fun _ hraw =>
  List.mem_append_right _ (List.mem_flatMap.2 ⟨r, hr, hraw⟩)

/-- An error of reading a payload names one of its faults. -/
theorem hasFault_of_ofPayload {p : Payload} {e : GraphError} (h : ofPayload p = .error e) :
    p.HasFault e := by
  cases refusedAt_of_ofPayload h with
  | location hsplit hg h =>
      rcases addLocation_eq_error h with ⟨hid, rfl⟩ | ⟨raw, hid, hregister⟩
      · exact .missingId .location hsplit hid (by decide)
      · exact hg.hasFault_of_register .location (by rintro ⟨⟩) hsplit (admitsId_of_id? hid)
          hregister
  | data hsplit hg h =>
      rcases addData_eq_error h with ⟨hid, rfl⟩ | ⟨raw, hid, hregister⟩
      · exact .missingId .data hsplit hid (by decide)
      · exact hg.hasFault_of_register .data (fun _ => rfl) hsplit
          (admitsId_of_id? hid) hregister
  | @system g done rest r hsplit hg h =>
      have hr : r ∈ p.systems := by simp [hsplit]
      rcases addSystem_eq_error h with
        ⟨hid, rfl⟩ | ⟨raw, hid, hregister | hplacement | ⟨table, hstores⟩⟩
      · exact .missingId .system hsplit hid (by decide)
      · exact hg.hasFault_of_register .system (by rintro ⟨⟩) hsplit (admitsId_of_id? hid)
          hregister
      · rcases placement_eq_error hplacement with ⟨hnone, rfl⟩ | ⟨zone, hzone, hunknown, rfl⟩
        · exact .missingLocation hr hid hnone
        · exact .undeclaredLocation hr hid hzone
            ((hg.safe?_eq_none_iff (Or.inl rfl) zone).1 hunknown)
      · refine hg.hasFault_of_referToAll (g.withSystemTable table) rfl
          (fun text htext => ?_) rfl rfl (storedTexts_subset hr) hstores
        obtain ⟨r', hr', htext⟩ : ∃ r' ∈ done, text ∈ r'.storedTexts := by
          simpa [Payload.dataTexts] using htext
        exact storedTexts_subset (hsplit ▸ List.mem_append_left _ hr') htext
  | @connection g next done rest r hsplit hg h =>
      have hr : r ∈ p.connections := by simp [hsplit]
      have hraw : r.AdmitsId
          (g.connectionId (p.connections.filterMap Record.id?) next r).1 := by
        intro given hgiven
        rw [connectionId, Option.mem_def.1 hgiven]
      rcases addConnection_eq_error h with hregister | ⟨field, hfield, hend⟩ | ⟨table, hcarries⟩
      · exact hg.hasFault_of_register .connection (by rintro ⟨⟩) hsplit hraw hregister
      · obtain ⟨hunknown, rfl⟩ := endpoint_eq_error hend
        exact .undeclaredEnd hr hraw hfield
          ((hg.safe?_eq_none_iff (Or.inr rfl) _).1 hunknown)
      · refine hg.hasFault_of_referToAll (g.withConnectionTable table) rfl
          (fun text htext => ?_) rfl rfl (carriedTexts_subset hr) hcarries
        rcases List.mem_append.1 htext with htext | htext
        · exact List.mem_append_left _ htext
        · obtain ⟨r', hr', htext⟩ := List.mem_flatMap.1 htext
          exact carriedTexts_subset (hsplit ▸ List.mem_append_left _ hr') htext

end Graph

end ZoneGuard
