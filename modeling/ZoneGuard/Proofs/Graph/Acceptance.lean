import Mathlib
import ZoneGuard.Proofs.Graph.Fault
import ZoneGuard.Proofs.Payload

/-!
# Payloads that are accepted

In a coherent payload every entity has an id, ids and references to data can be told
apart by their identifiers, and zones and systems that are referred to are declared.
Such a payload has none of the faults that a payload can be refused for, although
references add further data assets while it is read.
-/

namespace ZoneGuard

open Json (Value Record)

/-- Every entity has an id, two ids never have one identifier, and what has to be
declared is. -/
structure Payload.IsCoherent (p : Payload) : Prop where
  hasId : ∀ kind, ∀ r ∈ p.records kind, r.id?.isSome
  nodup : ∀ kind, ((p.ids kind).map Identifier.ofText).Nodup
  /-- Data assets can be told apart whether they are declared or only referred to. -/
  separated : ∀ raw ∈ p.ids .data ++ p.dataTexts, ∀ raw' ∈ p.ids .data ++ p.dataTexts,
    Identifier.ofText raw = Identifier.ofText raw' → raw = raw'
  placed : ∀ r ∈ p.systems, ∃ zone ∈ p.ids .location, r.reference? .location = some zone
  connected : ∀ r ∈ p.connections, ∀ field ∈ [ReferenceField.source, .target],
    r.endText field ∈ p.ids .system

namespace Payload.IsCoherent

variable {p : Payload}

theorem id?_eq_some (h : p.IsCoherent) (kind : EntityKind) {r : Record}
    (hr : r ∈ p.records kind) {raw : String} (hraw : r.AdmitsId raw) : r.id? = some raw := by
  obtain ⟨given, hgiven⟩ := Option.isSome_iff_exists.1 (h.hasId kind r hr)
  rw [hgiven, hraw given hgiven]

theorem not_hasFault (h : p.IsCoherent) (e : GraphError) : ¬ p.HasFault e := by
  intro hfault
  cases hfault with
  | missingId kind hsplit hid =>
      have hsome := h.hasId _ _ (hsplit ▸ List.mem_append_right _ List.mem_cons_self)
      rw [hid] at hsome
      cases hsome
  | @conflict kind done rest r r' existing raw hsplit hr' hexisting hraw hnormal =>
      have hid : r.id? = some raw := h.id?_eq_some kind (by simp [hsplit]) hraw
      have hid' : r'.id? = some existing := h.id?_eq_some kind (by simp [hsplit, hr']) hexisting
      have hnodup := h.nodup kind
      rw [Payload.ids, hsplit, List.filterMap_append, List.filterMap_cons_some hid,
        List.map_append, List.map_cons, List.nodup_append] at hnodup
      have hmem : existing ∈ done.filterMap Record.id? :=
        List.mem_filterMap.2 ⟨r', hr', hid'⟩
      exact hnodup.2.2 _ (List.mem_map_of_mem hmem) _ List.mem_cons_self hnormal
  | referenceConflict hraw hexisting hne hnormal =>
      exact hne (h.separated _ hexisting _ (List.mem_append_right _ hraw) hnormal)
  | missingLocation hr _ hnone =>
      obtain ⟨zone, -, hzone⟩ := h.placed _ hr
      rw [hnone] at hzone
      cases hzone
  | undeclaredLocation hr _ hzone hnotMem =>
      obtain ⟨zone, hmem, hzone'⟩ := h.placed _ hr
      rw [hzone] at hzone'
      cases hzone'
      exact hnotMem hmem
  | @undeclaredEnd r raw field hr _ hfield hnotMem =>
      have hend : field ∈ [ReferenceField.source, .target] := by
        cases field with
        | location => exact absurd rfl hfield
        | source => decide
        | target => decide
      exact hnotMem (h.connected _ hr field hend)

end Payload.IsCoherent

namespace Graph

/-- If all entities give ids, these are the ids of the graph. -/
theorem IsGivenBy.entityIds_eq {g : Graph} {p : Payload} (h : g.IsGivenBy p)
    (hp : p.IsCoherent) {kind : EntityKind} (hkind : kind ≠ .data) :
    (g.entityIds kind).map (·.raw) = p.ids kind := by
  cases kind with
  | location =>
      rw [entityIds, List.map_map]
      exact h.locationRaws_eq
  | data => exact absurd rfl hkind
  | system =>
      rw [entityIds, List.map_map]
      exact h.systemRaws_eq
  | connection =>
      rw [entityIds, List.map_map]
      refine map_eq_filterMap_id? (fun r hr c hc => ?_) h.connections
      obtain ⟨raw, hraw, rfl⟩ := hc
      exact hp.id?_eq_some .connection hr hraw

/-- A coherent payload of objects that give no field twice becomes a graph with the
entities it describes, under the ids it gives. -/
theorem exists_graph_of_isCoherent {v : Value} {p : Payload} (hv : p.IsGivenBy v)
    (hspelled : IsSinglySpelled v) (hp : p.IsCoherent) :
    ∃ g, ofJson v = .ok g ∧ g.IsGivenBy p ∧
      ∀ kind, kind ≠ .data → (g.entityIds kind).map (·.raw) = p.ids kind := by
  have hread : ofJson v = ofPayload p := by rw [ofJson, hv.read_eq_ok hspelled]
  cases hpayload : ofPayload p with
  | error e => exact absurd (hasFault_of_ofPayload hpayload) (hp.not_hasFault e)
  | ok g =>
      have hg := isGivenBy_of_ofPayload hpayload
      exact ⟨g, hread.trans hpayload, hg, fun kind hkind => hg.entityIds_eq hp hkind⟩

/-- A payload with numeric ids, an older spelling, and references to a data asset that
is declared and to others that are not. -/
def mixedPayload : Value :=
  .object
    [("connections", .array
      [.object
        [("carries", .array [.ofNat 7, .string "d"]), ("from", .string "s"), ("id", .ofNat 2),
         ("to", .string "s")]]),
     ("data", .array [.object [("id", .string "d")]]),
     ("locations", .array [.object [("id", .ofNat 1)]]),
     ("systems", .array
      [.object [("id", .string "s"), ("loc", .string "1"), ("stores", .string "d, e")]])]

def mixedRecords : Payload where
  locations := [locationRecord.recordOf [("id", .ofNat 1)]]
  data := [dataRecord.recordOf [("id", .string "d")]]
  systems := [systemRecord.recordOf
    [("id", .string "s"), ("loc", .string "1"), ("stores", .string "d, e")]]
  connections := [connectionRecord.recordOf
    [("carries", .array [.ofNat 7, .string "d"]), ("from", .string "s"), ("id", .ofNat 2),
     ("to", .string "s")]]

theorem exists_graph_of_isCoherent_mixedPayload :
    mixedRecords.IsGivenBy mixedPayload ∧ IsSinglySpelled mixedPayload ∧
      mixedRecords.IsCoherent ∧
      ∃ g, ofJson mixedPayload = .ok g ∧ g.IsGivenBy mixedRecords ∧
        (g.entityIds .location).map (·.raw) = ["1"] ∧
        (g.entityIds .connection).map (·.raw) = ["2"] := by
  have hgiven : mixedRecords.IsGivenBy mixedPayload :=
    ⟨⟨_, rfl⟩, .objects [_], .objects [_], .objects [_], .objects [_]⟩
  have hspelled : IsSinglySpelled mixedPayload := hgiven.read_eq_ok_iff.1 rfl
  have hcoherent : mixedRecords.IsCoherent := by
    refine ⟨fun kind => ?_, fun kind => ?_, by decide +kernel, by decide +kernel,
      by decide +kernel⟩
    all_goals cases kind <;> decide +kernel
  obtain ⟨g, hok, hg, hids⟩ := exists_graph_of_isCoherent hgiven hspelled hcoherent
  exact ⟨hgiven, hspelled, hcoherent, g, hok, hg, (hids .location nofun).trans (by decide +kernel),
    (hids .connection nofun).trans (by decide +kernel)⟩

end Graph

end ZoneGuard
