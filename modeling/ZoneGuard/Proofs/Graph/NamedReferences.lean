import Mathlib
import ZoneGuard.Proofs.Graph.Acceptance

/-!
# Zones and ends that are named

In an accepted payload the zone of a system is a declared one, which the record of the
system names.  The ends of a connection are declared systems as well, but an end that
names nothing is taken for the system with the empty id.  So a payload is read like the
one in which such ends name the empty id, and that one leaves no end out.
-/

namespace ZoneGuard

open Json (Value Record)

namespace Json.Record

/-! ## Naming an entity -/

/-- The field holds the id, as a text or as a number. -/
inductive GivesId (r : Record) (name : String) : String → Prop where
  | text (s : String) (h : r.values.lookup name = some (.string s)) : r.GivesId name s
  | number (n : Number) (h : r.values.lookup name = some (.number n)) : r.GivesId name n.text

/-- The field is absent, or its value is neither a text nor a number. -/
inductive GivesNoId (r : Record) (name : String) : Prop where
  | absent (h : r.values.lookup name = none)
  | null (h : r.values.lookup name = some .null)
  | bool (b : Bool) (h : r.values.lookup name = some (.bool b))
  | array (items : List Value) (h : r.values.lookup name = some (.array items))
  | object (members : List (String × Value)) (h : r.values.lookup name = some (.object members))

variable {r r' : Record} {field : ReferenceField} {raw : String}

theorem GivesId.reference?_eq (h : r.GivesId field.name raw) : r.reference? field = some raw := by
  unfold reference? field?
  cases h with
  | text s h => rw [h]; rfl
  | number n h => rw [h]; rfl

theorem GivesNoId.reference?_eq (h : r.GivesNoId field.name) : r.reference? field = none := by
  unfold reference? field?
  cases h with
  | absent h => rw [h]; rfl
  | null h => rw [h]; rfl
  | bool b h => rw [h]; rfl
  | array items h => rw [h]; rfl
  | object members h => rw [h]; rfl

/-- A field gives an id or none, and never both. -/
theorem givesId_or_givesNoId (r : Record) (name : String) :
    (∃ raw, r.GivesId name raw) ∨ r.GivesNoId name := by
  cases h : r.values.lookup name with
  | none => exact Or.inr (.absent h)
  | some v =>
      cases v with
      | null => exact Or.inr (.null h)
      | bool b => exact Or.inr (.bool b h)
      | number n => exact Or.inl ⟨n.text, .number n h⟩
      | string s => exact Or.inl ⟨s, .text s h⟩
      | array items => exact Or.inr (.array items h)
      | object members => exact Or.inr (.object members h)

theorem reference?_eq_some_iff : r.reference? field = some raw ↔ r.GivesId field.name raw := by
  refine ⟨fun h => ?_, GivesId.reference?_eq⟩
  rcases r.givesId_or_givesNoId field.name with ⟨given, hgiven⟩ | hnone
  · rw [hgiven.reference?_eq] at h
    exact Option.some.inj h ▸ hgiven
  · rw [hnone.reference?_eq] at h
    cases h

theorem reference?_eq_none_iff : r.reference? field = none ↔ r.GivesNoId field.name := by
  refine ⟨fun h => ?_, GivesNoId.reference?_eq⟩
  rcases r.givesId_or_givesNoId field.name with ⟨given, hgiven⟩ | hnone
  · rw [hgiven.reference?_eq] at h
    cases h
  · exact hnone

/-- The end of a connection names the system, by its id or, if that is empty, by no id. -/
def NamesEnd (r : Record) (field : ReferenceField) (raw : String) : Prop :=
  r.GivesId field.name raw ∨ r.GivesNoId field.name ∧ raw = ""

theorem namesEnd_endText (r : Record) (field : ReferenceField) :
    r.NamesEnd field (r.endText field) := by
  cases h : r.reference? field with
  | none => exact Or.inr ⟨reference?_eq_none_iff.1 h, by rw [endText, h]; rfl⟩
  | some raw => exact Or.inl (reference?_eq_some_iff.1 (by rw [endText, h]; rfl))

/-! ## Ends that name nothing -/

/-- The record with the empty id in the field, if the field gives no id. -/
def withEnd (field : ReferenceField) (r : Record) : Record :=
  match r.reference? field with
  | some _ => r
  | none => ⟨(field.name, .string "") :: r.values⟩

/-- The record of a connection with the empty id in each end that gives no id. -/
def withEnds (r : Record) : Record := (r.withEnd .source).withEnd .target

theorem field?_withEnd_of_ne {name : String} (hne : name ≠ field.name) :
    (r.withEnd field).field? name = r.field? name := by
  unfold withEnd
  split
  · rfl
  · rw [field?, field?, List.lookup_cons, beq_false_of_ne hne]

theorem reference?_withEnd_of_ne {other : ReferenceField} (hne : other ≠ field) :
    (r.withEnd field).reference? other = r.reference? other := by
  have hname : other.name ≠ field.name := by
    revert hne
    cases other <;> cases field <;> decide
  rw [reference?, reference?, field?_withEnd_of_ne hname]

theorem reference?_withEnd (field : ReferenceField) (r : Record) :
    (r.withEnd field).reference? field = some (r.endText field) := by
  unfold withEnd
  split
  · next h => rw [endText, h]; rfl
  · next h =>
    rw [endText, h]
    exact reference?_eq_some_iff.2 (.text "" List.lookup_cons_self)

theorem exists_givesId_withEnds (r : Record) :
    ∀ field ∈ [ReferenceField.source, .target], ∃ raw, r.withEnds.GivesId field.name raw := by
  intro field hfield
  have hreference : ∃ raw, r.withEnds.reference? field = some raw := by
    rcases List.mem_pair.1 hfield with rfl | rfl
    · rw [withEnds, reference?_withEnd_of_ne (by decide)]
      exact ⟨_, reference?_withEnd .source r⟩
    · exact ⟨_, reference?_withEnd .target _⟩
  exact hreference.imp fun _ => reference?_eq_some_iff.1

/-- The records agree in all fields that refer to no entity, and their ends name the
same systems. -/
structure SameEnds (r r' : Record) : Prop where
  field?_eq : ∀ name, (∀ field : ReferenceField, name ≠ field.name) → r.field? name = r'.field? name
  endText_eq : ∀ field, r.endText field = r'.endText field

theorem sameEnds_withEnd (field : ReferenceField) (r : Record) :
    (r.withEnd field).SameEnds r where
  field?_eq := fun _ hname => field?_withEnd_of_ne (hname field)
  endText_eq := by
    intro other
    by_cases heq : other = field
    · subst heq
      rw [endText, reference?_withEnd]
      rfl
    · rw [endText, endText, reference?_withEnd_of_ne heq]

theorem sameEnds_withEnds (r : Record) : r.withEnds.SameEnds r where
  field?_eq := fun name hname =>
    ((sameEnds_withEnd .target _).field?_eq name hname).trans
      ((sameEnds_withEnd .source r).field?_eq name hname)
  endText_eq := fun field =>
    ((sameEnds_withEnd .target _).endText_eq field).trans
      ((sameEnds_withEnd .source r).endText_eq field)

theorem SameEnds.id?_eq (h : r.SameEnds r') : r.id? = r'.id? := by
  rw [id?, id?, h.field?_eq "id" (by rintro ⟨⟩ <;> decide)]

end Json.Record

/-- The payload with the empty id in each end that gives no id. -/
def Payload.withEnds (p : Payload) : Payload :=
  { p with connections := p.connections.map Record.withEnds }

namespace Graph

section SameEnds

variable {r r' : Record} (h : r.SameEnds r')
include h

/-- An end that is left out and one that is empty are looked up alike. -/
theorem endpoint_of_sameEnds (g : Graph) (raw : String) (field : ReferenceField) :
    g.endpoint raw field r = g.endpoint raw field r' := by
  have hend := h.endText_eq field
  rw [Record.endText, Record.endText, Record.reference?, Record.reference?] at hend
  rw [endpoint, endpoint, hend]

theorem ofRecord_of_sameEnds (id : EntityId) (source target : Identifier)
    (carries : List Identifier) :
    Connection.ofRecord id source target carries r =
      Connection.ofRecord id source target carries r' := by
  unfold Connection.ofRecord
  congr 2
  all_goals exact h.field?_eq _ (by rintro ⟨⟩ <;> decide)

/-- What a connection adds depends on the systems that its ends name, and not on how
they name them. -/
theorem addConnection_of_sameEnds (explicit : List String) (state : Graph × Nat) (index : Nat) :
    addConnection explicit state index r = addConnection explicit state index r' := by
  have hcarries : r.field? "carries" = r'.field? "carries" :=
    h.field?_eq "carries" (by rintro ⟨⟩ <;> decide)
  simp only [addConnection, connectionId, h.id?_eq, endpoint_of_sameEnds h, hcarries,
    ofRecord_of_sameEnds h]

end SameEnds

/-- An end that gives no id is read as one that gives the empty id. -/
theorem ofPayload_withEnds (p : Payload) : ofPayload p.withEnds = ofPayload p := by
  have hrecords : List.Forall₂ Record.SameEnds p.withEnds.connections p.connections :=
    List.forall₂_map_left_iff.2 (List.forall₂_same.2 fun r _ => r.sameEnds_withEnds)
  have hids : p.withEnds.connections.filterMap Record.id? =
      p.connections.filterMap Record.id? := by
    rw [Payload.withEnds, List.filterMap_map]
    exact List.filterMap_congr fun r _ => r.sameEnds_withEnds.id?_eq
  simp only [ofPayload, hids, addEach_congr hrecords fun _ _ h state i =>
    addConnection_of_sameEnds h _ state i]
  rfl

/-! ## Accepted records -/

theorem IsGivenBy.mem_ids_of_safe? {g : Graph} {p : Payload} (hg : g.IsGivenBy p)
    {kind : EntityKind} (hkind : kind = .location ∨ kind = .system) {raw : String}
    {id : Identifier} (hsafe : (g.ids.ofKind kind).safe? raw = some id) : raw ∈ p.ids kind := by
  by_contra hnotMem
  rw [(hg.safe?_eq_none_iff hkind raw).2 hnotMem] at hsafe
  cases hsafe

/-- The record of an accepted system names a declared zone. -/
theorem exists_zone_of_addSystem {g g' : Graph} {p : Payload} (hg : g.IsGivenBy p) {index : Nat}
    {r : Record} (hadd : g.addSystem index r = .ok g') :
    ∃ zone ∈ p.ids .location, r.reference? .location = some zone := by
  obtain ⟨raw, safe, table, location, stores, between, -, -, hplaced, -, -⟩ :=
    addSystem_eq_ok_iff.1 hadd
  obtain ⟨zone, hzone, hsafe⟩ := placement_eq_ok_iff.1 hplaced
  exact ⟨zone, hg.mem_ids_of_safe? (Or.inl rfl) hsafe, hzone⟩

/-- The ends of an accepted connection name declared systems. -/
theorem endText_mem_of_addConnection {g g' : Graph} {p : Payload} (hg : g.IsGivenBy p)
    {explicit : List String} {next next' index : Nat} {r : Record}
    (hadd : addConnection explicit (g, next) index r = .ok (g', next')) :
    ∀ field ∈ [ReferenceField.source, .target], r.endText field ∈ p.ids .system := by
  obtain ⟨raw, safe, table, source, target, carries, between, -, -, hsource, htarget, -, -⟩ :=
    addConnection_eq_ok_iff.1 hadd
  intro field hfield
  rcases List.mem_pair.1 hfield with rfl | rfl
  · exact hg.mem_ids_of_safe? (Or.inr rfl) (endpoint_eq_ok_iff.1 hsource)
  · exact hg.mem_ids_of_safe? (Or.inr rfl) (endpoint_eq_ok_iff.1 htarget)

/-- All records of an accepted payload name what is declared. -/
theorem named_of_ofPayload {p : Payload} {g : Graph} (h : ofPayload p = .ok g) :
    (∀ r ∈ p.systems, ∃ zone ∈ p.ids .location, r.reference? .location = some zone) ∧
      ∀ r ∈ p.connections, ∀ field ∈ [ReferenceField.source, .target],
        r.endText field ∈ p.ids .system := by
  obtain ⟨g₁, g₂, g₃, next, hlocations, hdata, hsystems, hconnections⟩ :=
    ofPayload_eq_ok_iff.1 h
  have hg₂ := (isGivenBy_of_addLocation hlocations).data_of_addData hdata
  obtain ⟨hg₃, hplaced⟩ := addEach_invariant
    (P := fun g done => g.IsGivenBy ⟨p.locations, p.data, done, []⟩ ∧
      ∀ r ∈ done, ∃ zone ∈ p.ids .location, r.reference? .location = some zone)
    (by
      rintro g done r g' ⟨hg, hdone⟩ hadd
      refine ⟨hg.addSystem hadd, List.forall_mem_append.2 ⟨hdone, ?_⟩⟩
      exact List.forall_mem_singleton.2 (exists_zone_of_addSystem hg hadd))
    ⟨hg₂, nofun⟩ hsystems
  obtain ⟨-, hconnected⟩ := addEach_invariant
    (P := fun state done => state.1.IsGivenBy ⟨p.locations, p.data, p.systems, done⟩ ∧
      ∀ r ∈ done, ∀ field ∈ [ReferenceField.source, .target], r.endText field ∈ p.ids .system)
    (by
      rintro ⟨g, next⟩ done r ⟨g', next'⟩ ⟨hg, hdone⟩ hadd
      refine ⟨hg.addConnection hadd, List.forall_mem_append.2 ⟨hdone, ?_⟩⟩
      exact List.forall_mem_singleton.2 (endText_mem_of_addConnection hg hadd))
    ⟨hg₃, nofun⟩ hconnections
  exact ⟨hplaced, hconnected⟩

/-! ## Resolved references -/

/-- The zones and systems of a graph are the declared ones, and systems and connections
refer to those that their records name. -/
structure ResolvesReferences (g : Graph) (p : Payload) : Prop where
  locations : g.locations.map (·.id.raw) = p.ids .location
  systems : g.systems.map (·.id.raw) = p.ids .system
  placed : List.Forall₂ (fun s r => ∃ zone ∈ g.locations,
    r.GivesId "location" zone.id.raw ∧ s.location = zone.id.safe ∧ g.zone? s = some zone)
    g.systems p.systems
  connected : List.Forall₂ (fun c r =>
    (∃ s ∈ g.systems, r.NamesEnd .source s.id.raw ∧ c.source = s.id.safe) ∧
      ∃ s ∈ g.systems, r.NamesEnd .target s.id.raw ∧ c.target = s.id.safe)
    g.connections p.connections

/-- The zone of a system is the one that its record names. -/
theorem IsGivenBy.exists_named_zone {g : Graph} {p : Payload} (hg : g.IsGivenBy p) {s : System}
    {r : Record} (hs : s.IsGivenBy r)
    (hplaced : ∃ zone ∈ p.ids .location, r.reference? .location = some zone) :
    ∃ zone ∈ g.locations,
      r.GivesId "location" zone.id.raw ∧ s.location = zone.id.safe ∧ g.zone? s = some zone := by
  obtain ⟨raw, hmem, hraw⟩ := hplaced
  obtain ⟨id, raw', -, hraw', rfl⟩ := hs
  obtain rfl : raw = raw' := Option.some.inj (hraw.symm.trans hraw')
  rw [← hg.locationRaws_eq] at hmem
  obtain ⟨zone, hzone, rfl⟩ := List.mem_map.1 hmem
  have hsafe : zone.id.safe = .ofText zone.id.raw :=
    (hg.consistent.mirrors .location).normalized _ (List.mem_map_of_mem hzone)
  exact ⟨zone, hzone, Record.reference?_eq_some_iff.1 hraw, hsafe.symm,
    hg.consistent.zone?_eq_some hzone hsafe⟩

/-- An end of a connection is a system that the record names, or whose id is empty. -/
theorem IsGivenBy.exists_named_end {g : Graph} {p : Payload} (hg : g.IsGivenBy p) {r : Record}
    {field : ReferenceField} (hend : r.endText field ∈ p.ids .system) :
    ∃ s ∈ g.systems, r.NamesEnd field s.id.raw ∧ .ofText (r.endText field) = s.id.safe := by
  rw [← hg.systemRaws_eq] at hend
  obtain ⟨s, hs, hraw⟩ := List.mem_map.1 hend
  have hsafe : s.id.safe = .ofText s.id.raw :=
    (hg.consistent.mirrors .system).normalized _ (List.mem_map_of_mem hs)
  rw [← hraw]
  exact ⟨s, hs, hraw ▸ r.namesEnd_endText field, hsafe.symm⟩

/-- In an accepted payload all references lead to the entities that they name. -/
theorem resolvesReferences_of_ofPayload {p : Payload} {g : Graph} (h : ofPayload p = .ok g) :
    g.ResolvesReferences p := by
  have hg := isGivenBy_of_ofPayload h
  obtain ⟨hplaced, hconnected⟩ := named_of_ofPayload h
  obtain ⟨hsystems, hsystem⟩ := List.forall₂_iff_zip.1 hg.systems
  obtain ⟨hconnections, hconnection⟩ := List.forall₂_iff_zip.1 hg.connections
  refine ⟨hg.locationRaws_eq, hg.systemRaws_eq,
    List.forall₂_iff_zip.2 ⟨hsystems, fun hmem => ?_⟩,
    List.forall₂_iff_zip.2 ⟨hconnections, fun hmem => ?_⟩⟩
  · exact hg.exists_named_zone (hsystem hmem) (hplaced _ (List.of_mem_zip hmem).2)
  · obtain ⟨raw, -, rfl⟩ := hconnection hmem
    have hends := hconnected _ (List.of_mem_zip hmem).2
    exact ⟨hg.exists_named_end (hends .source (by decide)),
      hg.exists_named_end (hends .target (by decide))⟩

/-- The zone of a system and the ends of a connection are what the records name, and a
payload with a system that names no zone is refused.  An end that names nothing is read
as one that names the empty id, and is refused unless a system has that id. -/
theorem resolvesReferences_of_read {v : Value} {p : Payload} (hread : Payload.read v = .ok p) :
    (∀ g, ofJson v = .ok g → g.ResolvesReferences p) ∧
      (∀ r ∈ p.systems, r.GivesNoId "location" → ∃ e, ofJson v = .error e ∧ p.HasFault e) ∧
      (∀ r ∈ p.connections, ∀ field ∈ [ReferenceField.source, .target],
        r.GivesNoId field.name → "" ∉ p.ids .system →
          ∃ e, ofJson v = .error e ∧ p.HasFault e) ∧
      ofJson v = ofPayload p.withEnds ∧
      ∀ r ∈ p.withEnds.connections, ∀ field ∈ [ReferenceField.source, .target],
        ∃ raw, r.GivesId field.name raw := by
  have hjson : ofJson v = ofPayload p := by rw [ofJson, hread]
  rw [hjson, ofPayload_withEnds]
  refine ⟨fun g => resolvesReferences_of_ofPayload, fun r hr hnone => ?_,
    fun r hr field hfield hnone hempty => ?_, rfl, ?_⟩
  · cases hpayload : ofPayload p with
    | error e => exact ⟨e, rfl, hasFault_of_ofPayload hpayload⟩
    | ok g =>
        obtain ⟨zone, -, hzone⟩ := (named_of_ofPayload hpayload).1 r hr
        have hunnamed : r.reference? .location = none := hnone.reference?_eq
        rw [hunnamed] at hzone
        cases hzone
  · cases hpayload : ofPayload p with
    | error e => exact ⟨e, rfl, hasFault_of_ofPayload hpayload⟩
    | ok g =>
        have hend := (named_of_ofPayload hpayload).2 r hr field hfield
        rw [Record.endText, hnone.reference?_eq] at hend
        exact absurd hend hempty
  · exact List.forall_mem_map.2 fun r _ => r.exists_givesId_withEnds

/-- Zones and ends that are given as numbers and under an older spelling. -/
theorem resolvesReferences_of_read_mixedPayload :
    Payload.read mixedPayload = .ok mixedRecords ∧
      ∃ g, ofJson mixedPayload = .ok g ∧ g.ResolvesReferences mixedRecords ∧
        ofJson mixedPayload = ofPayload mixedRecords.withEnds := by
  have hread : Payload.read mixedPayload = .ok mixedRecords := rfl
  obtain ⟨hresolves, -, -, hends, -⟩ := resolvesReferences_of_read hread
  have haccepted : (ofJson mixedPayload).toOption.isSome = true := by decide +kernel
  obtain ⟨g, hg⟩ := Option.isSome_iff_exists.1 haccepted
  have hok := except_toOption_eq_some_iff.1 hg
  exact ⟨hread, g, hok, hresolves g hok, hends⟩

/-- A connection without a source, beside a system with the empty id. -/
def namelessPayload : Value :=
  .object
    [("connections", .array [.object [("id", .string "c"), ("to", .string "")]]),
     ("locations", .array [.object [("id", .string "z")]]),
     ("systems", .array [.object [("id", .string ""), ("location", .string "z")]])]

/-- The connection is accepted, and that system is its source. -/
theorem exists_accepted_of_givesNoId :
    ∃ p g, Payload.read namelessPayload = .ok p ∧ ofJson namelessPayload = .ok g ∧
      (∃ r ∈ p.connections, r.GivesNoId "from") ∧
      g.connections.map (·.source) = [.ofText ""] := by
  obtain ⟨p, hread, hnone⟩ : ∃ p, Payload.read namelessPayload = .ok p ∧
      ∃ r ∈ p.connections, r.GivesNoId "from" :=
    ⟨_, rfl, _, List.mem_singleton_self _, .absent rfl⟩
  have hview : (ofJson namelessPayload).toOption.map (fun g => g.connections.map (·.source)) =
      some [.ofText ""] := by decide +kernel
  obtain ⟨g, hg, hsource⟩ := Option.map_eq_some_iff.1 hview
  exact ⟨p, g, hread, except_toOption_eq_some_iff.1 hg, hnone, hsource⟩

end Graph

end ZoneGuard
