import Mathlib
import ZoneGuard.Proofs.Graph.Build
import ZoneGuard.Proofs.Spec.Emission

/-!
# Graphs read from payloads are well formed

Four lists of entities and four tables of ids grow together while a payload is
read, and data assets are still being added when systems and connections refer
to them.  The invariant that survives every record is `Consistent`: each table
mirrors its list, and every reference names an entity.  It gives all that the
rest of the library relies on, and that such a graph has a specification.
-/

namespace ZoneGuard

open Json (Value Record)

namespace Graph

/-- The ids of the entities of a kind, in their order. -/
def entityIds (g : Graph) : EntityKind → List EntityId
  | .location => g.locations.map (·.id)
  | .data => g.data.map (·.id)
  | .system => g.systems.map (·.id)
  | .connection => g.connections.map (·.id)

theorem identifiers_eq_map (g : Graph) (kind : EntityKind) :
    g.identifiers kind = (g.entityIds kind).map (·.safe) := by
  cases kind <;> simp [identifiers, entityIds]

theorem length_entityIds (g : Graph) (kind : EntityKind) :
    (g.entityIds kind).length = g.count kind := by
  cases kind <;> simp [count, entityIds]

theorem resolves_iff (g : Graph) (ref : Reference) :
    g.resolves ref = true ↔ ref.target ∈ g.identifiers ref.targetKind := by
  simp [resolves]

theorem mem_references_of_system {g : Graph} {s : System} {ref : Reference}
    (hs : s ∈ g.systems) (href : ref ∈ s.references) : ref ∈ g.references :=
  List.mem_append_left _ (List.mem_flatMap.2 ⟨s, hs, href⟩)

theorem mem_references_of_connection {g : Graph} {c : Connection} {ref : Reference}
    (hc : c ∈ g.connections) (href : ref ∈ c.references) : ref ∈ g.references :=
  List.mem_append_right _ (List.mem_flatMap.2 ⟨c, hc, href⟩)

/-- The lists of `g'` begin with the lists of `g`. -/
structure Extends (g g' : Graph) : Prop where
  locations : g.locations <+: g'.locations
  data : g.data <+: g'.data
  systems : g.systems <+: g'.systems
  connections : g.connections <+: g'.connections

theorem Extends.identifiers_subset {g g' : Graph} (h : g.Extends g') (kind : EntityKind) :
    g.identifiers kind ⊆ g'.identifiers kind := by
  cases kind with
  | location => exact (h.locations.map _).subset
  | data => exact (h.data.map _).subset
  | system => exact (h.systems.map _).subset
  | connection => exact (h.connections.map _).subset

/-- Each table mirrors its list, and each reference names an entity. -/
structure Consistent (g : Graph) : Prop where
  mirrors : ∀ kind, (g.ids.ofKind kind).Mirrors (g.entityIds kind)
  resolves : ∀ ref ∈ g.references, g.resolves ref = true

theorem consistent_empty : ({} : Graph).Consistent where
  mirrors := by
    intro kind
    cases kind <;> exact IdTable.mirrors_empty
  resolves := by
    intro ref href
    simp [references] at href

namespace Consistent

variable {g g' : Graph}

/-- A graph that only gains entities stays consistent if the new references
resolve. -/
theorem extend (h : g.Consistent) (hextends : g.Extends g')
    (hmirrors : ∀ kind, (g'.ids.ofKind kind).Mirrors (g'.entityIds kind))
    (hreferences : ∀ ref ∈ g'.references, ref ∈ g.references ∨ g'.resolves ref = true) :
    g'.Consistent where
  mirrors := hmirrors
  resolves := by
    intro ref href
    rcases hreferences ref href with hold | hnew
    · rw [resolves_iff]
      exact hextends.identifiers_subset _ ((g.resolves_iff ref).1 (h.resolves ref hold))
    · exact hnew

/-! ## Zones and declared data -/

/-- Adding a zone keeps tables and entities in agreement. -/
theorem addLocation (h : g.Consistent) {index : Nat} {r : Record}
    (hindex : index = g.locations.length) (hadd : g.addLocation index r = .ok g') :
    g'.Consistent := by
  obtain ⟨raw, safe, table, -, hinsert, rfl⟩ := addLocation_eq_ok_iff.1 hadd
  have htable : table.Mirrors (g.entityIds .location ++ [⟨raw, safe⟩]) := by
    apply (h.mirrors .location).insert
    rwa [length_entityIds, count, ← hindex]
  refine h.extend ⟨List.prefix_append _ _, List.prefix_rfl, List.prefix_rfl, List.prefix_rfl⟩
    ?_ fun ref href => Or.inl href
  intro kind
  cases kind with
  | location => simpa [IdTables.ofKind, entityIds, Location.ofRecord] using htable
  | data => exact h.mirrors .data
  | system => exact h.mirrors .system
  | connection => exact h.mirrors .connection

theorem addData (h : g.Consistent) {index : Nat} {r : Record}
    (hindex : index = g.data.length) (hadd : g.addData index r = .ok g') :
    g'.Consistent := by
  obtain ⟨raw, safe, table, -, hinsert, rfl⟩ := addData_eq_ok_iff.1 hadd
  have htable : table.Mirrors (g.entityIds .data ++ [⟨raw, safe⟩]) := by
    apply (h.mirrors .data).insert
    rwa [length_entityIds, count, ← hindex]
  refine h.extend ⟨List.prefix_rfl, List.prefix_append _ _, List.prefix_rfl, List.prefix_rfl⟩
    ?_ fun ref href => Or.inl href
  intro kind
  cases kind with
  | location => exact h.mirrors .location
  | data => simpa [IdTables.ofKind, entityIds, DataAsset.ofRecord] using htable
  | system => exact h.mirrors .system
  | connection => exact h.mirrors .connection

end Consistent

/-! ## Data that is referred to -/

/-- The graph with other data assets and the table that goes with them. -/
def withData (g : Graph) (data : List DataAsset) (table : IdTable) : Graph :=
  { g with data, ids := { g.ids with data := table } }

/-- The asset a reference names is in the list afterwards, under the normal
form of the reference, and nothing but the data assets has changed. -/
theorem referToData_eq_ok {g g' : Graph} {raw : String} {id : Identifier}
    (hmirrors : g.ids.data.Mirrors (g.data.map (·.id)))
    (h : g.referToData raw = .ok (id, g')) :
    ∃ added table, g' = g.withData (g.data ++ added) table ∧
      table.Mirrors ((g.data ++ added).map (·.id)) ∧
      id = Identifier.ofText raw ∧
      (⟨raw, Identifier.ofText raw⟩ : EntityId) ∈ (g.data ++ added).map (·.id) := by
  unfold referToData at h
  split at h
  · next safe hknown =>
    cases h
    have hmem := (hmirrors.safe_iff raw id).1 hknown
    have hnormal : id = Identifier.ofText raw := hmirrors.normalized _ hmem
    refine ⟨[], g.ids.data, ?_, ?_, hnormal, ?_⟩
    · simp [withData]
    · simpa using hmirrors
    · simpa [hnormal] using hmem
  · next hunknown =>
    obtain ⟨⟨safe, table⟩, hregister, hresult⟩ := except_bind_eq_ok_iff.1 h
    have hinsert := register_eq_ok_iff.1 hregister
    cases hresult
    obtain ⟨-, -, hnormal, -⟩ := IdTable.insert_eq_ok_iff.1 hinsert
    refine ⟨[.ofReference ⟨raw, id⟩], table, rfl, ?_, hnormal, ?_⟩
    · have hlength : g.data.length = (g.data.map (·.id)).length := by simp
      rw [hlength] at hinsert
      simpa [DataAsset.ofReference] using hmirrors.insert hinsert
    · simp [DataAsset.ofReference, hnormal]

/-- The same for a list of references: the list of data assets only grows at
its end, so what an earlier reference has named stays in it. -/
theorem referToAll_eq_ok {g g' : Graph} {raws : List String} {ids : List Identifier}
    (hmirrors : g.ids.data.Mirrors (g.data.map (·.id)))
    (h : g.referToAll raws = .ok (ids, g')) :
    ∃ added table, g' = g.withData (g.data ++ added) table ∧
      table.Mirrors ((g.data ++ added).map (·.id)) ∧
      ids = raws.map Identifier.ofText ∧
      ∀ raw ∈ raws, (⟨raw, Identifier.ofText raw⟩ : EntityId) ∈ (g.data ++ added).map (·.id) := by
  induction raws generalizing g ids with
  | nil =>
      cases h
      exact ⟨[], g'.ids.data, by simp [withData], by simpa using hmirrors, rfl, by simp⟩
  | cons raw raws ih =>
      obtain ⟨⟨id, g₁⟩, hfirst, hrest⟩ := except_bind_eq_ok_iff.1 h
      obtain ⟨⟨ids', g₂⟩, hothers, hresult⟩ := except_bind_eq_ok_iff.1 hrest
      cases hresult
      obtain ⟨added₁, table₁, rfl, hmirrors₁, rfl, hmem₁⟩ := referToData_eq_ok hmirrors hfirst
      obtain ⟨added₂, table₂, rfl, hmirrors₂, rfl, hmem₂⟩ := ih hmirrors₁ hothers
      refine ⟨added₁ ++ added₂, table₂, ?_, ?_, rfl, ?_⟩
      · simp [withData]
      · simpa [withData] using hmirrors₂
      · intro raw' hraw'
        rcases List.mem_cons.1 hraw' with rfl | hraw'
        · rw [← List.append_assoc, List.map_append]
          exact List.mem_append_left _ hmem₁
        · simpa [withData] using hmem₂ raw' hraw'

/-! ## Systems and connections -/

namespace Consistent

variable {g g' : Graph}

/-- What a list of references names can be found among the data assets. -/
theorem mem_identifiers_of_references {data : List DataAsset} {raws : List String}
    (hmem : ∀ raw ∈ raws, (⟨raw, Identifier.ofText raw⟩ : EntityId) ∈ data.map (·.id)) :
    ∀ id ∈ raws.map Identifier.ofText, id ∈ data.map (·.id.safe) := by
  intro id hid
  obtain ⟨raw, hraw, rfl⟩ := List.mem_map.1 hid
  obtain ⟨asset, hasset, heq⟩ := List.mem_map.1 (hmem raw hraw)
  exact List.mem_map.2 ⟨asset, hasset, by rw [heq]⟩

/-- Adding a system keeps tables and entities in agreement. -/
theorem addSystem (h : g.Consistent) {index : Nat} {r : Record}
    (hindex : index = g.systems.length) (hadd : g.addSystem index r = .ok g') :
    g'.Consistent := by
  obtain ⟨raw, safe, table, location, stores, g₂, -, hinsert, hlocation, hstores, rfl⟩ :=
    addSystem_eq_ok_iff.1 hadd
  have htable : table.Mirrors (g.entityIds .system ++ [⟨raw, safe⟩]) := by
    apply (h.mirrors .system).insert
    rwa [length_entityIds, count, ← hindex]
  obtain ⟨target, -, hsafe⟩ := placement_eq_ok_iff.1 hlocation
  have hplaced : location ∈ g.identifiers .location := by
    rw [identifiers_eq_map]
    exact List.mem_map.2 ⟨_, ((h.mirrors .location).safe_iff target location).1 hsafe, rfl⟩
  obtain ⟨added, dataTable, rfl, hdata, rfl, hmem⟩ :=
    referToAll_eq_ok (g := g.withSystemTable table) (h.mirrors .data) hstores
  have hstored := mem_identifiers_of_references hmem
  refine h.extend ⟨List.prefix_rfl, List.prefix_append _ _, List.prefix_append _ _,
    List.prefix_rfl⟩ ?_ ?_
  · intro kind
    cases kind with
    | location => exact h.mirrors .location
    | data => exact hdata
    | system =>
        simpa [IdTables.ofKind, entityIds, withData, withSystemTable, System.ofRecord] using htable
    | connection => exact h.mirrors .connection
  · intro ref href
    simp only [references, withData, List.flatMap_append, List.flatMap_cons, List.flatMap_nil,
      List.append_nil] at href
    rcases List.mem_append.1 href with hsystem | hconnection
    · rcases List.mem_append.1 hsystem with hold | hnew
      · exact Or.inl (List.mem_append_left _ hold)
      · right
        rw [resolves_iff]
        rcases List.mem_cons.1 hnew with rfl | hnew
        · exact hplaced
        · obtain ⟨id, hid, rfl⟩ := List.mem_map.1 hnew
          exact hstored id hid
    · exact Or.inl (List.mem_append_right _ hconnection)

theorem endpoint_mem (h : g.Consistent) {raw : String} {field : ReferenceField} {r : Record}
    {id : Identifier} (hend : g.endpoint raw field r = .ok id) :
    id ∈ g.identifiers .system := by
  rw [identifiers_eq_map]
  exact List.mem_map.2
    ⟨_, ((h.mirrors .system).safe_iff _ id).1 (endpoint_eq_ok_iff.1 hend), rfl⟩

/-- Adding a connection keeps tables and entities in agreement. -/
theorem addConnection (h : g.Consistent) {explicit : List String} {next next' index : Nat}
    {r : Record} (hindex : index = g.connections.length)
    (hadd : Graph.addConnection explicit (g, next) index r = .ok (g', next')) :
    g'.Consistent := by
  obtain ⟨raw, safe, table, source, target, carries, g₂, -, hinsert, hsource, htarget,
    hcarries, rfl⟩ := addConnection_eq_ok_iff.1 hadd
  have htable : table.Mirrors (g.entityIds .connection ++ [⟨raw, safe⟩]) := by
    apply (h.mirrors .connection).insert
    rwa [length_entityIds, count, ← hindex]
  have hsourceMem := h.endpoint_mem hsource
  have htargetMem := h.endpoint_mem htarget
  obtain ⟨added, dataTable, rfl, hdata, rfl, hmem⟩ :=
    referToAll_eq_ok (g := g.withConnectionTable table) (h.mirrors .data) hcarries
  have hcarried := mem_identifiers_of_references hmem
  refine h.extend ⟨List.prefix_rfl, List.prefix_append _ _, List.prefix_rfl,
    List.prefix_append _ _⟩ ?_ ?_
  · intro kind
    cases kind with
    | location => exact h.mirrors .location
    | data => exact hdata
    | system => exact h.mirrors .system
    | connection =>
        simpa [IdTables.ofKind, entityIds, withData, withConnectionTable,
          Connection.ofRecord] using htable
  · intro ref href
    simp only [references, withData, List.flatMap_append, List.flatMap_cons, List.flatMap_nil,
      List.append_nil] at href
    rcases List.mem_append.1 href with hsystem | hconnection
    · exact Or.inl (List.mem_append_left _ hsystem)
    · rcases List.mem_append.1 hconnection with hold | hnew
      · exact Or.inl (List.mem_append_right _ hold)
      · right
        rw [resolves_iff]
        rcases List.mem_cons.1 hnew with rfl | hnew
        · exact hsourceMem
        · rcases List.mem_cons.1 hnew with rfl | hnew
          · exact htargetMem
          · obtain ⟨id, hid, rfl⟩ := List.mem_map.1 hnew
            exact hcarried id hid

end Consistent

/-! ## Whole payloads -/

theorem locations_of_addLocation {g g' : Graph} {index : Nat} {r : Record}
    (hadd : g.addLocation index r = .ok g') :
    g'.locations.length = g.locations.length + 1 ∧ g'.data = g.data ∧
      g'.systems = g.systems ∧ g'.connections = g.connections := by
  obtain ⟨raw, safe, table, -, -, rfl⟩ := addLocation_eq_ok_iff.1 hadd
  simp

theorem data_of_addData {g g' : Graph} {index : Nat} {r : Record}
    (hadd : g.addData index r = .ok g') :
    g'.data.length = g.data.length + 1 ∧ g'.systems = g.systems ∧
      g'.connections = g.connections := by
  obtain ⟨raw, safe, table, -, -, rfl⟩ := addData_eq_ok_iff.1 hadd
  simp

theorem Consistent.systems_of_addSystem {g g' : Graph} (h : g.Consistent) {index : Nat}
    {r : Record} (hadd : g.addSystem index r = .ok g') :
    g'.systems.length = g.systems.length + 1 ∧ g'.connections = g.connections := by
  obtain ⟨raw, safe, table, location, stores, g₂, -, -, -, hstores, rfl⟩ :=
    addSystem_eq_ok_iff.1 hadd
  obtain ⟨added, dataTable, rfl, -⟩ :=
    referToAll_eq_ok (g := g.withSystemTable table) (h.mirrors .data) hstores
  simp [withData, withSystemTable]

theorem Consistent.connections_of_addConnection {g g' : Graph} (h : g.Consistent)
    {explicit : List String} {next next' index : Nat} {r : Record}
    (hadd : Graph.addConnection explicit (g, next) index r = .ok (g', next')) :
    g'.connections.length = g.connections.length + 1 := by
  obtain ⟨raw, safe, table, source, target, carries, g₂, -, -, -, -, hcarries, rfl⟩ :=
    addConnection_eq_ok_iff.1 hadd
  obtain ⟨added, dataTable, rfl, -⟩ :=
    referToAll_eq_ok (g := g.withConnectionTable table) (h.mirrors .data) hcarries
  simp [withData, withConnectionTable]

/-- The invariant holds after the first three loops: a record of one kind finds
the list of its kind as long as its own position. -/
theorem consistent_before_connections {p : Payload} {g₁ g₂ g₃ : Graph}
    (hlocations : addEach Graph.addLocation {} 0 p.locations = .ok g₁)
    (hdata : addEach Graph.addData g₁ 0 p.data = .ok g₂)
    (hsystems : addEach Graph.addSystem g₂ 0 p.systems = .ok g₃) :
    g₃.Consistent ∧ g₃.connections = [] := by
  obtain ⟨h₁, -, hempty₁⟩ := addEach_invariant
    (P := fun g done => g.Consistent ∧ g.locations.length = done.length ∧
      g.data = [] ∧ g.systems = [] ∧ g.connections = [])
    (by
      rintro g done r g' ⟨hg, hlength, hd, hs, hc⟩ hadd
      obtain ⟨hl', hd', hs', hc'⟩ := locations_of_addLocation hadd
      exact ⟨hg.addLocation hlength.symm hadd, by simp [hl', hlength], hd'.trans hd,
        hs'.trans hs, hc'.trans hc⟩)
    ⟨consistent_empty, rfl, rfl, rfl, rfl⟩ hlocations
  obtain ⟨h₂, -, hempty₂⟩ := addEach_invariant
    (P := fun g done => g.Consistent ∧ g.data.length = done.length ∧
      g.systems = [] ∧ g.connections = [])
    (by
      rintro g done r g' ⟨hg, hlength, hs, hc⟩ hadd
      obtain ⟨hd', hs', hc'⟩ := data_of_addData hadd
      exact ⟨hg.addData hlength.symm hadd, by simp [hd', hlength], hs'.trans hs, hc'.trans hc⟩)
    ⟨h₁, by simp [hempty₁.1], hempty₁.2⟩ hdata
  obtain ⟨h₃, -, hempty₃⟩ := addEach_invariant
    (P := fun g done => g.Consistent ∧ g.systems.length = done.length ∧ g.connections = [])
    (by
      rintro g done r g' ⟨hg, hlength, hc⟩ hadd
      obtain ⟨hs', hc'⟩ := hg.systems_of_addSystem hadd
      exact ⟨hg.addSystem hlength.symm hadd, by simp [hs', hlength], hc'.trans hc⟩)
    ⟨h₂, by simp [hempty₂.1], hempty₂.2⟩ hsystems
  exact ⟨h₃, hempty₃⟩

/-- The graph of a payload is consistent: every record keeps it so. -/
theorem consistent_of_ofPayload {p : Payload} {g : Graph} (h : ofPayload p = .ok g) :
    g.Consistent := by
  obtain ⟨g₁, g₂, g₃, next, hlocations, hdata, hsystems, hconnections⟩ :=
    ofPayload_eq_ok_iff.1 h
  obtain ⟨h₃, hempty₃⟩ := consistent_before_connections hlocations hdata hsystems
  obtain ⟨h₄, -⟩ := addEach_invariant
    (P := fun state done => state.1.Consistent ∧ state.1.connections.length = done.length)
    (by
      rintro ⟨g, next⟩ done r ⟨g', next'⟩ ⟨hg, hlength⟩ hadd
      exact ⟨hg.addConnection hlength.symm hadd,
        by simp [hg.connections_of_addConnection hadd, hlength]⟩)
    ⟨h₃, by simp [hempty₃]⟩ hconnections
  exact h₄

theorem consistent_of_ofJson {v : Value} {g : Graph} (h : ofJson v = .ok g) :
    g.Consistent := by
  unfold ofJson at h
  split at h
  · cases h
  · exact consistent_of_ofPayload h

/-! ## What consistency gives -/

namespace Consistent

variable {g : Graph}

theorem exists_entity (h : g.Consistent) {ref : Reference} (href : ref ∈ g.references) :
    ref.target ∈ g.identifiers ref.targetKind :=
  (g.resolves_iff ref).1 (h.resolves ref href)

/-- The zone of a system is found through its identifier. -/
theorem zone?_eq_some (h : g.Consistent) {s : System} {zone : Location}
    (hzone : zone ∈ g.locations) (hsafe : zone.id.safe = s.location) :
    g.zone? s = some zone := by
  obtain ⟨i, hi⟩ := List.getElem?_of_mem hzone
  have hindex : g.ids.locations.index? s.location = some i := by
    refine ((h.mirrors .location).index_iff s.location i).2 ?_
    simp [entityIds, hi, hsafe]
  simp [zone?, location?, hindex, hi]

/-- The zone that a system names is the one its identifier is looked up to. -/
theorem exists_zone (h : g.Consistent) {s : System} (hs : s ∈ g.systems) :
    ∃ zone ∈ g.locations, zone.id.safe = s.location ∧ g.zone? s = some zone := by
  have hmem : s.location ∈ g.identifiers .location :=
    h.exists_entity (mem_references_of_system hs List.mem_cons_self)
  obtain ⟨zone, hzone, hsafe⟩ := List.mem_map.1 hmem
  exact ⟨zone, hzone, hsafe, h.zone?_eq_some hzone hsafe⟩

/-- Every reference of a consistent graph resolves, so it has a specification. -/
theorem compile_eq_ok (h : g.Consistent) : g.compile = .ok ⟨Spec.render g.forms⟩ := by
  have hnone : g.unresolved? g.references = none := by
    rw [unresolved?, List.find?_eq_none]
    intro ref href
    simp [h.resolves ref href]
  exact g.compile_eq.trans (failOn_eq_ok_iff.2 ⟨hnone, rfl⟩)

end Consistent

/-- What the rest of the library relies on: tables and lists tell the same, and
no reference dangles. -/
structure IsWellFormed (g : Graph) : Prop where
  /-- A table has as many entries as its list has entities. -/
  size_eq : ∀ kind, (g.ids.ofKind kind).size = g.count kind
  /-- The entity at a position bears the normal form of its id, and the table
  leads from each of identifier, id and position to the others. -/
  lookup : ∀ kind i e, (g.entityIds kind)[i]? = some e →
    e.safe = Identifier.ofText e.raw ∧ (g.ids.ofKind kind).index? e.safe = some i ∧
      (g.ids.ofKind kind).raw? e.safe = some e.raw ∧
      (g.ids.ofKind kind).safe? e.raw = some e.safe
  nodup_raw : ∀ kind, ((g.entityIds kind).map (·.raw)).Nodup
  nodup_safe : ∀ kind, ((g.entityIds kind).map (·.safe)).Nodup
  placed : ∀ s ∈ g.systems,
    ∃ zone ∈ g.locations, zone.id.safe = s.location ∧ g.zone? s = some zone
  connected : ∀ c ∈ g.connections,
    (∃ s ∈ g.systems, s.id.safe = c.source) ∧ ∃ s ∈ g.systems, s.id.safe = c.target
  stored : ∀ s ∈ g.systems, ∀ id ∈ s.stores, ∃ d ∈ g.data, d.id.safe = id
  carried : ∀ c ∈ g.connections, ∀ id ∈ c.carries, ∃ d ∈ g.data, d.id.safe = id

theorem Consistent.isWellFormed {g : Graph} (h : g.Consistent) : g.IsWellFormed where
  size_eq := fun kind => (h.mirrors kind).size_eq.trans (g.length_entityIds kind)
  lookup := fun kind i e he =>
    ⟨(h.mirrors kind).normalized e (List.mem_of_getElem? he),
      (h.mirrors kind).lookup_of_getElem? he⟩
  nodup_raw := fun kind => (h.mirrors kind).nodup_raw
  nodup_safe := fun kind => (h.mirrors kind).nodup_safe
  placed := fun s hs => h.exists_zone hs
  connected := by
    intro c hc
    have hsource := h.exists_entity (mem_references_of_connection hc List.mem_cons_self)
    have htarget := h.exists_entity
      (mem_references_of_connection hc (List.mem_cons_of_mem _ List.mem_cons_self))
    exact ⟨List.mem_map.1 hsource, List.mem_map.1 htarget⟩
  stored := by
    intro s hs id hid
    have href := h.exists_entity (mem_references_of_system hs
      (List.mem_cons_of_mem _ (List.mem_map_of_mem hid)))
    exact List.mem_map.1 href
  carried := by
    intro c hc id hid
    have href := h.exists_entity (mem_references_of_connection hc
      (List.mem_cons_of_mem _ (List.mem_cons_of_mem _ (List.mem_map_of_mem hid))))
    exact List.mem_map.1 href

/-- Every graph that is read from a JSON value is well formed, and it has a
specification. -/
theorem isWellFormed_and_compiles_of_ofJson {v : Value} {g : Graph} (h : ofJson v = .ok g) :
    g.IsWellFormed ∧ ∃ spec, g.compile = .ok spec := by
  have hconsistent := consistent_of_ofJson h
  exact ⟨hconsistent.isWellFormed, _, hconsistent.compile_eq_ok⟩

/-- A system refers to one undeclared data asset twice, and an unnamed
connection to that asset and to another. -/
def inferringPayload : Value :=
  .object
    [("connections", .array
      [.object
        [("carries", .array [.string "d.1", .string "x y"]), ("from", .string "s 1"),
         ("to", .string "s 1")]]),
     ("locations", .array [.object [("id", .string "z-1")]]),
     ("systems", .array
      [.object
        [("id", .string "s 1"), ("location", .string "z-1"),
         ("stores", .string "d.1, d.1")]])]

theorem isWellFormed_and_compiles_inferringPayload :
    ∃ g, ofJson inferringPayload = .ok g ∧ g.data.map (·.id.raw) = ["d.1", "x y"] ∧
      g.IsWellFormed ∧ ∃ spec, g.compile = .ok spec := by
  have hread : (ofJson inferringPayload).toOption.map (fun g => g.data.map (·.id.raw)) =
      some ["d.1", "x y"] := by decide +kernel
  obtain ⟨g, hg, hdata⟩ := Option.map_eq_some_iff.1 hread
  have hok := except_toOption_eq_some_iff.1 hg
  exact ⟨g, hok, hdata, isWellFormed_and_compiles_of_ofJson hok⟩

end Graph

end ZoneGuard
