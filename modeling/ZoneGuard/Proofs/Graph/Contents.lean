import Mathlib
import ZoneGuard.Proofs.Graph.Conflict

/-!
# What a graph has of a payload

A graph that is read from a payload has one entity for every record, in the order
of the records, and besides only data assets that are referred to.  Said of the
records added so far, this is an invariant of all four loops.  So it holds of the
graph that comes out, and it tells the state in which a record is refused.
-/

namespace ZoneGuard

open Json (Value Record)

/-! ## Entities and their records -/

def EntityId.ofText (raw : String) : EntityId := ⟨raw, Identifier.ofText raw⟩

/-- The record gives the id, or none at all. -/
def Json.Record.AdmitsId (r : Record) (raw : String) : Prop := ∀ given ∈ r.id?, given = raw

/-- The id in a field that refers to an entity. -/
def Json.Record.reference? (r : Record) (field : ReferenceField) : Option String :=
  (r.field? field.name).bind idText?

/-- The system that an end of a connection names, by the empty id if it names none. -/
def Json.Record.endText (r : Record) (field : ReferenceField) : String :=
  (r.reference? field).getD ""

/-- The data assets that a system's record names. -/
def Json.Record.storedTexts (r : Record) : List String := referenceTexts (r.field? "stores")

/-- The data assets that a connection's record names. -/
def Json.Record.carriedTexts (r : Record) : List String := referenceTexts (r.field? "carries")

/-- The data assets that the systems and connections of a payload name. -/
def Payload.dataTexts (p : Payload) : List String :=
  p.systems.flatMap Record.storedTexts ++ p.connections.flatMap Record.carriedTexts

def Location.IsGivenBy (l : Location) (r : Record) : Prop :=
  ∃ raw, r.id? = some raw ∧ l = .ofRecord (.ofText raw) r

def DataAsset.IsGivenBy (d : DataAsset) (r : Record) : Prop :=
  ∃ raw, r.id? = some raw ∧ d = .ofRecord (.ofText raw) r

/-- The system is the one that the record describes, and its references are those of
the record. -/
def System.IsGivenBy (s : System) (r : Record) : Prop :=
  ∃ raw zone, r.id? = some raw ∧ r.reference? .location = some zone ∧
    s = .ofRecord (.ofText raw) (.ofText zone) (r.storedTexts.map .ofText) r

/-- The connection is the one that the record describes, with any id if the record
gives none. -/
def Connection.IsGivenBy (c : Connection) (r : Record) : Prop :=
  ∃ raw, r.AdmitsId raw ∧
    c = .ofRecord (.ofText raw) (.ofText (r.endText .source)) (.ofText (r.endText .target))
      (r.carriedTexts.map .ofText) r

namespace Graph

/-- The graph is consistent and has the entities that the records describe, in their
order.  Behind the declared data assets come those that are only referred to. -/
structure IsGivenBy (g : Graph) (p : Payload) : Prop where
  consistent : g.Consistent
  locations : List.Forall₂ Location.IsGivenBy g.locations p.locations
  data : ∃ declared inferred, g.data = declared ++ inferred ∧
    List.Forall₂ DataAsset.IsGivenBy declared p.data ∧
    ∀ d ∈ inferred, ∃ raw ∈ p.dataTexts, d = .ofReference (.ofText raw)
  systems : List.Forall₂ System.IsGivenBy g.systems p.systems
  connections : List.Forall₂ Connection.IsGivenBy g.connections p.connections

theorem isGivenBy_empty : ({} : Graph).IsGivenBy ⟨[], [], [], []⟩ where
  consistent := consistent_empty
  locations := .nil
  data := ⟨[], [], rfl, .nil, by simp⟩
  systems := .nil
  connections := .nil

/-! ## One more record -/

theorem forall₂_append_singleton {α β : Type} {R : α → β → Prop} {as : List α} {bs : List β}
    {a : α} {b : β} (h : List.Forall₂ R as bs) (hab : R a b) :
    List.Forall₂ R (as ++ [a]) (bs ++ [b]) :=
  List.rel_append h (.cons hab .nil)

/-- References add data assets that are inferred from them. -/
theorem referToData_inferred {g g' : Graph} {raw : String} {id : Identifier}
    (h : g.referToData raw = .ok (id, g')) :
    ∃ added, g'.data = g.data ++ added ∧ ∀ d ∈ added, d = .ofReference (.ofText raw) := by
  unfold referToData at h
  split at h
  · cases h
    exact ⟨[], by simp, by simp⟩
  · obtain ⟨⟨safe, table⟩, hregister, hresult⟩ := except_bind_eq_ok_iff.1 h
    obtain ⟨-, -, rfl, -⟩ := IdTable.insert_eq_ok_iff.1 (register_eq_ok_iff.1 hregister)
    cases hresult
    exact ⟨_, rfl, fun d hd => List.mem_singleton.1 hd⟩

theorem referToAll_inferred {g g' : Graph} {raws : List String} {ids : List Identifier}
    (h : g.referToAll raws = .ok (ids, g')) :
    ∃ added, g'.data = g.data ++ added ∧
      ∀ d ∈ added, ∃ raw ∈ raws, d = .ofReference (.ofText raw) := by
  induction raws generalizing g ids with
  | nil =>
      cases h
      exact ⟨[], by simp, by simp⟩
  | cons raw raws ih =>
      obtain ⟨⟨id, g₁⟩, hfirst, hrest⟩ := except_bind_eq_ok_iff.1 h
      obtain ⟨⟨ids', g₂⟩, hothers, hresult⟩ := except_bind_eq_ok_iff.1 hrest
      cases hresult
      obtain ⟨added₁, hdata₁, hadded₁⟩ := referToData_inferred hfirst
      obtain ⟨added₂, hdata₂, hadded₂⟩ := ih hothers
      refine ⟨added₁ ++ added₂, by rw [hdata₂, hdata₁, List.append_assoc], fun d hd => ?_⟩
      rcases List.mem_append.1 hd with hd | hd
      · exact ⟨raw, List.mem_cons_self, hadded₁ d hd⟩
      · obtain ⟨raw', hraw', rfl⟩ := hadded₂ d hd
        exact ⟨raw', List.mem_cons_of_mem _ hraw', rfl⟩

/-- A system is placed in the zone that its record refers to. -/
theorem Consistent.ofText_of_placement {g : Graph} (h : g.Consistent) {raw : String} {r : Record}
    {id : Identifier} (hplaced : g.placement raw r = .ok id) :
    ∃ zone, r.reference? .location = some zone ∧ id = .ofText zone := by
  obtain ⟨zone, hzone, hsafe⟩ := placement_eq_ok_iff.1 hplaced
  exact ⟨zone, hzone, (h.mirrors .location).eq_ofText_of_safe? hsafe⟩

theorem Consistent.ofText_of_endpoint {g : Graph} (h : g.Consistent) {raw : String}
    {field : ReferenceField} {r : Record} {id : Identifier}
    (hend : g.endpoint raw field r = .ok id) : id = .ofText (r.endText field) :=
  (h.mirrors .system).eq_ofText_of_safe? (endpoint_eq_ok_iff.1 hend)

namespace IsGivenBy

variable {g g' : Graph} {p : Payload} {r : Record}

/-- One more zone is the one that its record describes. -/
theorem addLocation (h : g.IsGivenBy p)
    (hadd : g.addLocation p.locations.length r = .ok g') :
    g'.IsGivenBy { p with locations := p.locations ++ [r] } := by
  have hconsistent := h.consistent.addLocation h.locations.length_eq.symm hadd
  obtain ⟨raw, safe, table, hid, hinsert, rfl⟩ := addLocation_eq_ok_iff.1 hadd
  obtain ⟨-, -, rfl, -⟩ := IdTable.insert_eq_ok_iff.1 hinsert
  exact ⟨hconsistent, forall₂_append_singleton h.locations ⟨raw, hid, rfl⟩, h.data, h.systems,
    h.connections⟩

/-- A graph without systems and connections has declared data assets only. -/
theorem data_of_nil (h : g.IsGivenBy p) (hnone : p.dataTexts = []) :
    List.Forall₂ DataAsset.IsGivenBy g.data p.data := by
  obtain ⟨declared, inferred, hdata, hdeclared, hinferred⟩ := h.data
  have hempty : inferred = [] := by
    refine List.eq_nil_iff_forall_not_mem.2 fun d hd => ?_
    obtain ⟨raw, hraw, -⟩ := hinferred d hd
    rw [hnone] at hraw
    exact absurd hraw List.not_mem_nil
  rwa [hdata, hempty, List.append_nil]

theorem addData (h : g.IsGivenBy p) (hnone : p.dataTexts = [])
    (hadd : g.addData p.data.length r = .ok g') :
    g'.IsGivenBy { p with data := p.data ++ [r] } := by
  have hdata := h.data_of_nil hnone
  have hconsistent := h.consistent.addData hdata.length_eq.symm hadd
  obtain ⟨raw, safe, table, hid, hinsert, rfl⟩ := addData_eq_ok_iff.1 hadd
  obtain ⟨-, -, rfl, -⟩ := IdTable.insert_eq_ok_iff.1 hinsert
  exact ⟨hconsistent, h.locations,
    ⟨_, [], (List.append_nil _).symm, forall₂_append_singleton hdata ⟨raw, hid, rfl⟩, by simp⟩,
    h.systems, h.connections⟩

/-- Data assets that are inferred from further references come behind the others. -/
theorem data_append (h : g.IsGivenBy p) {added : List DataAsset} {p' : Payload}
    (hp : p'.data = p.data) (hsubset : p.dataTexts ⊆ p'.dataTexts)
    (hadded : ∀ d ∈ added, ∃ raw ∈ p'.dataTexts, d = .ofReference (.ofText raw)) :
    ∃ declared inferred, g.data ++ added = declared ++ inferred ∧
      List.Forall₂ DataAsset.IsGivenBy declared p'.data ∧
      ∀ d ∈ inferred, ∃ raw ∈ p'.dataTexts, d = .ofReference (.ofText raw) := by
  obtain ⟨declared, inferred, hdata, hdeclared, hinferred⟩ := h.data
  refine ⟨declared, inferred ++ added, by rw [hdata, List.append_assoc], hp ▸ hdeclared,
    fun d hd => ?_⟩
  rcases List.mem_append.1 hd with hd | hd
  · obtain ⟨raw, hraw, rfl⟩ := hinferred d hd
    exact ⟨raw, hsubset hraw, rfl⟩
  · exact hadded d hd

/-- One more system is the one that its record describes, and keeps what is there. -/
theorem addSystem (h : g.IsGivenBy p) (hadd : g.addSystem p.systems.length r = .ok g') :
    g'.IsGivenBy { p with systems := p.systems ++ [r] } := by
  have hconsistent := h.consistent.addSystem h.systems.length_eq.symm hadd
  obtain ⟨raw, safe, table, location, stores, g₂, hid, hinsert, hlocation, hstores, rfl⟩ :=
    addSystem_eq_ok_iff.1 hadd
  obtain ⟨-, -, rfl, -⟩ := IdTable.insert_eq_ok_iff.1 hinsert
  obtain ⟨zone, hzone, rfl⟩ := h.consistent.ofText_of_placement hlocation
  obtain ⟨added', hdata', hadded⟩ := referToAll_inferred hstores
  obtain ⟨added, dataTable, rfl, -, rfl, -⟩ :=
    referToAll_eq_ok (g := g.withSystemTable table) (h.consistent.mirrors .data) hstores
  obtain rfl : added = added' := List.append_cancel_left hdata'
  have hsystem : System.IsGivenBy _ r := ⟨raw, zone, hid, hzone, rfl⟩
  refine ⟨hconsistent, h.locations, ?_, forall₂_append_singleton h.systems hsystem,
    h.connections⟩
  refine h.data_append rfl (fun raw hraw => ?_) fun d hd => ?_
  · simp only [Payload.dataTexts, List.flatMap_append, List.mem_append] at hraw ⊢
    exact hraw.imp_left Or.inl
  · obtain ⟨raw, hraw, rfl⟩ := hadded d hd
    refine ⟨raw, ?_, rfl⟩
    simp only [Payload.dataTexts, List.flatMap_append, List.flatMap_singleton, List.mem_append]
    exact Or.inl (Or.inr hraw)

/-- One more connection is the one that its record describes. -/
theorem addConnection (h : g.IsGivenBy p) {explicit : List String} {next next' : Nat}
    (hadd : Graph.addConnection explicit (g, next) p.connections.length r = .ok (g', next')) :
    g'.IsGivenBy { p with connections := p.connections ++ [r] } := by
  have hconsistent := h.consistent.addConnection h.connections.length_eq.symm hadd
  obtain ⟨raw, safe, table, source, target, carries, g₂, hid, hinsert, hsource, htarget,
    hcarries, rfl⟩ := addConnection_eq_ok_iff.1 hadd
  obtain ⟨-, -, rfl, -⟩ := IdTable.insert_eq_ok_iff.1 hinsert
  obtain rfl := h.consistent.ofText_of_endpoint hsource
  obtain rfl := h.consistent.ofText_of_endpoint htarget
  obtain ⟨added', hdata', hadded⟩ := referToAll_inferred hcarries
  obtain ⟨added, dataTable, rfl, -, rfl, -⟩ :=
    referToAll_eq_ok (g := g.withConnectionTable table) (h.consistent.mirrors .data) hcarries
  obtain rfl : added = added' := List.append_cancel_left hdata'
  have hgiven : r.AdmitsId raw := by
    intro given hgiven
    rw [connectionId, Option.mem_def.1 hgiven] at hid
    exact congrArg Prod.fst hid
  have hconnection : Connection.IsGivenBy _ r := ⟨raw, hgiven, rfl⟩
  refine ⟨hconsistent, h.locations, ?_, h.systems,
    forall₂_append_singleton h.connections hconnection⟩
  refine h.data_append rfl (fun raw hraw => ?_) fun d hd => ?_
  · simp only [Payload.dataTexts, List.flatMap_append, List.mem_append] at hraw ⊢
    exact hraw.imp_right Or.inl
  · obtain ⟨raw, hraw, rfl⟩ := hadded d hd
    refine ⟨raw, ?_, rfl⟩
    simp only [Payload.dataTexts, List.flatMap_append, List.flatMap_singleton, List.mem_append]
    exact Or.inr (Or.inr hraw)

end IsGivenBy

/-! ## All records -/

section Loops

variable {g g' : Graph} {ls ds ss rs : List Record}

theorem isGivenBy_of_addLocation (h : addEach addLocation {} 0 rs = .ok g) :
    g.IsGivenBy ⟨rs, [], [], []⟩ :=
  addEach_invariant (P := fun g done => g.IsGivenBy ⟨done, [], [], []⟩)
    (fun _ _ _ _ hg hadd => hg.addLocation hadd) isGivenBy_empty h

theorem IsGivenBy.data_of_addData (hg : g.IsGivenBy ⟨ls, [], [], []⟩)
    (h : addEach Graph.addData g 0 rs = .ok g') : g'.IsGivenBy ⟨ls, rs, [], []⟩ :=
  addEach_invariant (P := fun g done => g.IsGivenBy ⟨ls, done, [], []⟩)
    (fun _ _ _ _ hg hadd => hg.addData rfl hadd) hg h

theorem IsGivenBy.systems_of_addSystem (hg : g.IsGivenBy ⟨ls, ds, [], []⟩)
    (h : addEach Graph.addSystem g 0 rs = .ok g') : g'.IsGivenBy ⟨ls, ds, rs, []⟩ :=
  addEach_invariant (P := fun g done => g.IsGivenBy ⟨ls, ds, done, []⟩)
    (fun _ _ _ _ hg hadd => hg.addSystem hadd) hg h

end Loops

/-- An accepted payload has become a graph with the entities it describes. -/
theorem isGivenBy_of_ofPayload {p : Payload} {g : Graph} (h : ofPayload p = .ok g) :
    g.IsGivenBy p := by
  obtain ⟨g₁, g₂, g₃, next, hlocations, hdata, hsystems, hconnections⟩ :=
    ofPayload_eq_ok_iff.1 h
  have hg := ((isGivenBy_of_addLocation hlocations).data_of_addData hdata).systems_of_addSystem
    hsystems
  exact addEach_invariant
    (P := fun state done => state.1.IsGivenBy ⟨p.locations, p.data, p.systems, done⟩)
    (fun _ _ _ _ hg hadd => hg.addConnection hadd) hg hconnections

/-- A payload is refused for one of its records, in a state that has what the records
before it describe. -/
inductive RefusedAt (p : Payload) (e : GraphError) : Prop where
  | location {g : Graph} {done rest : List Record} {r : Record}
      (hsplit : p.locations = done ++ r :: rest) (hg : g.IsGivenBy ⟨done, [], [], []⟩)
      (h : g.addLocation done.length r = .error e)
  | data {g : Graph} {done rest : List Record} {r : Record}
      (hsplit : p.data = done ++ r :: rest) (hg : g.IsGivenBy ⟨p.locations, done, [], []⟩)
      (h : g.addData done.length r = .error e)
  | system {g : Graph} {done rest : List Record} {r : Record}
      (hsplit : p.systems = done ++ r :: rest)
      (hg : g.IsGivenBy ⟨p.locations, p.data, done, []⟩)
      (h : g.addSystem done.length r = .error e)
  | connection {g : Graph} {next : Nat} {done rest : List Record} {r : Record}
      (hsplit : p.connections = done ++ r :: rest)
      (hg : g.IsGivenBy ⟨p.locations, p.data, p.systems, done⟩)
      (h : addConnection (p.connections.filterMap Record.id?) (g, next) done.length r = .error e)

/-- A payload is refused at some record, and the graph before it is given by the records
before it. -/
theorem refusedAt_of_ofPayload {p : Payload} {e : GraphError} (h : ofPayload p = .error e) :
    RefusedAt p e := by
  rcases except_bind_eq_error_iff.1 h with hrefused | ⟨g₁, hlocations, h⟩
  · obtain ⟨g, done, r, rest, hsplit, hg, hrefused⟩ := addEach_eq_error
      (P := fun g done => g.IsGivenBy ⟨done, [], [], []⟩)
      (fun _ _ _ _ hg hadd => hg.addLocation hadd) isGivenBy_empty hrefused
    exact .location hsplit hg hrefused
  have hg₁ := isGivenBy_of_addLocation hlocations
  rcases except_bind_eq_error_iff.1 h with hrefused | ⟨g₂, hdata, h⟩
  · obtain ⟨g, done, r, rest, hsplit, hg, hrefused⟩ := addEach_eq_error
      (P := fun g done => g.IsGivenBy ⟨p.locations, done, [], []⟩)
      (fun _ _ _ _ hg hadd => hg.addData rfl hadd) hg₁ hrefused
    exact .data hsplit hg hrefused
  have hg₂ := hg₁.data_of_addData hdata
  rcases except_bind_eq_error_iff.1 h with hrefused | ⟨g₃, hsystems, h⟩
  · obtain ⟨g, done, r, rest, hsplit, hg, hrefused⟩ := addEach_eq_error
      (P := fun g done => g.IsGivenBy ⟨p.locations, p.data, done, []⟩)
      (fun _ _ _ _ hg hadd => hg.addSystem hadd) hg₂ hrefused
    exact .system hsplit hg hrefused
  have hg₃ := hg₂.systems_of_addSystem hsystems
  rcases except_bind_eq_error_iff.1 h with hrefused | ⟨result, -, h⟩
  · obtain ⟨⟨g, next⟩, done, r, rest, hsplit, hg, hrefused⟩ := addEach_eq_error
      (P := fun state done => state.1.IsGivenBy ⟨p.locations, p.data, p.systems, done⟩)
      (fun _ _ _ _ hg hadd => hg.addConnection hadd) hg₃ hrefused
    exact .connection hsplit hg hrefused
  · cases h

end Graph

end ZoneGuard
