import Mathlib
import ZoneGuard.Proofs.Graph.Build
import ZoneGuard.Proofs.Respelling.Payload

/-!
# The graph of a payload in another spelling

Records that agree add the same to a graph, or fail with the same error.  So the
graph of a payload, with its tables of ids, depends on what is read from the payload
only, and rewrites of the payload do not matter, however many there are.
-/

namespace ZoneGuard

open Json (Value Record)

/-! ## Entities of records that agree -/

section Entities

variable {r r' : Record} (h : r.Agrees r')
include h

theorem requiredId_eq (kind : EntityKind) (index : Nat) :
    requiredId kind index r = requiredId kind index r' := by
  rw [requiredId, requiredId, h.id?_eq]

theorem Location.ofRecord_eq (id : EntityId) :
    Location.ofRecord id r = Location.ofRecord id r' := by
  rw [Location.ofRecord, Location.ofRecord, h.attributeOr_eq rfl, h.attributeOr_eq rfl]

theorem DataAsset.ofRecord_eq (id : EntityId) :
    DataAsset.ofRecord id r = DataAsset.ofRecord id r' := by
  rw [DataAsset.ofRecord, DataAsset.ofRecord, h.attributeOr_eq rfl, h.attributeOr_eq rfl]

theorem System.ofRecord_eq (id : EntityId) (location : Identifier) (stores : List Identifier) :
    System.ofRecord id location stores r = System.ofRecord id location stores r' := by
  unfold System.ofRecord
  congr 1
  all_goals first | exact h.attributeOr_eq rfl _ | exact h.flagOr_eq rfl _

theorem Connection.ofRecord_eq (id : EntityId) (source target : Identifier)
    (carries : List Identifier) :
    Connection.ofRecord id source target carries r =
      Connection.ofRecord id source target carries r' := by
  unfold Connection.ofRecord
  congr 1
  all_goals first | exact h.attributeOr_eq rfl _ | exact h.flagOr_eq rfl _

namespace Graph

theorem addLocation_eq (g : Graph) (index : Nat) :
    g.addLocation index r = g.addLocation index r' := by
  simp only [addLocation, requiredId_eq h, Location.ofRecord_eq h]

theorem addData_eq (g : Graph) (index : Nat) : g.addData index r = g.addData index r' := by
  simp only [addData, requiredId_eq h, DataAsset.ofRecord_eq h]

theorem placement_eq (g : Graph) (raw : String) : g.placement raw r = g.placement raw r' := by
  rw [placement, placement, h.bind_idText?_eq rfl]

/-- Records that agree add the same system, or fail alike. -/
theorem addSystem_eq (g : Graph) (index : Nat) :
    g.addSystem index r = g.addSystem index r' := by
  have hstores := h.referenceTexts_eq (rfl : fieldUse "stores" = .references)
  simp only [addSystem, requiredId_eq h, placement_eq h, hstores, System.ofRecord_eq h]

theorem endpoint_eq (g : Graph) (raw : String) (field : ReferenceField) :
    g.endpoint raw field r = g.endpoint raw field r' := by
  have hfield : fieldUse field.name = .id := by cases field <;> rfl
  rw [endpoint, endpoint, h.bind_idText?_eq hfield]

theorem connectionId_eq (g : Graph) (explicit : List String) (next : Nat) :
    g.connectionId explicit next r = g.connectionId explicit next r' := by
  rw [connectionId, connectionId, h.id?_eq]

/-- Records that agree add the same connection, or fail alike. -/
theorem addConnection_eq (explicit : List String) (state : Graph × Nat) (index : Nat) :
    addConnection explicit state index r = addConnection explicit state index r' := by
  have hcarries := h.referenceTexts_eq (rfl : fieldUse "carries" = .references)
  simp only [addConnection, connectionId_eq h, endpoint_eq h, hcarries, Connection.ofRecord_eq h]

end Graph

end Entities

/-! ## Graphs of payloads that agree -/

theorem filterMap_id?_eq {rs rs' : List Record} (h : List.Forall₂ Record.Agrees rs rs') :
    rs.filterMap Record.id? = rs'.filterMap Record.id? := by
  induction h with
  | nil => rfl
  | cons h _ ih => rw [List.filterMap_cons, List.filterMap_cons, h.id?_eq, ih]

namespace Graph

/-- Payloads that agree make one graph. -/
theorem ofPayload_eq {p p' : Payload} (h : p.Agrees p') : ofPayload p = ofPayload p' := by
  simp only [ofPayload, filterMap_id?_eq h.connections,
    addEach_congr h.locations fun _ _ hr g i => addLocation_eq hr g i,
    addEach_congr h.data fun _ _ hr g i => addData_eq hr g i,
    addEach_congr h.systems fun _ _ hr g i => addSystem_eq hr g i,
    addEach_congr h.connections fun _ _ hr state i => addConnection_eq hr _ state i]

end Graph

/-! ## Rewrites of the payload -/

/-- What is told of an error: of a payload without the shape of a graph the words only. -/
def GraphError.reported : GraphError → String ⊕ GraphError
  | .shape e => .inl e.message
  | e => .inr e

/-- A rewrite does not change what is made of a payload. -/
theorem PayloadRewrite.ofJson_eq {v v' : Value} (h : PayloadRewrite v v')
    (hv : IsSinglySpelled v) :
    (Graph.ofJson v).mapError GraphError.reported =
      (Graph.ofJson v').mapError GraphError.reported := by
  have hread := h.readAlike hv
  rw [Graph.ofJson, Graph.ofJson]
  generalize Payload.read v = read, Payload.read v' = read' at hread
  cases hread with
  | error h => exact congrArg (Except.error <| Sum.inl ·) h
  | ok h => exact congrArg (Except.mapError GraphError.reported) (Graph.ofPayload_eq h)

namespace Graph

/-- The graph of a payload, or the error, is the same after any rewrites, in either
direction, if no entity gives a field twice. -/
theorem ofJson_eq_of_rewrites {v v' : Value} (h : Relation.EqvGen PayloadRewrite v v')
    (hv : IsSinglySpelled v) :
    (ofJson v).mapError GraphError.reported = (ofJson v').mapError GraphError.reported := by
  have hboth : (IsSinglySpelled v ↔ IsSinglySpelled v') ∧ (IsSinglySpelled v →
      (ofJson v).mapError GraphError.reported = (ofJson v').mapError GraphError.reported) := by
    clear hv
    induction h with
    | rel v v' h => exact ⟨h.isSinglySpelled_iff, h.ofJson_eq⟩
    | refl v => exact ⟨Iff.rfl, fun _ => rfl⟩
    | symm v v' _ ih => exact ⟨ih.1.symm, fun hv' => (ih.2 (ih.1.2 hv')).symm⟩
    | trans v v' v'' _ _ ih ih' =>
        exact ⟨ih.1.trans ih'.1, fun hv => (ih.2 hv).trans (ih'.2 (ih.1.1 hv))⟩
  exact hboth.2 hv

/-- A zone and a system as an older payload has them. -/
def olderPayload : Value :=
  .object
    [("locations", .array [.object [("id", .number (.integer 1)), ("type", .string " dmz ")]]),
      ("systems", .array [.object
        [("id", .string "web"), ("loc", .number (.integer 1)), ("stores", .string "a , b")]])]

/-- The zone and the system of `olderPayload` under the names of the fields, with texts
for ids, an array of references and a remark. -/
def newerPayload : Value :=
  .object
    [("locations", .array [.object [("id", .string "1"), ("type", .string "DMZ")]]),
      ("remark", .null),
      ("systems", .array [.object
        [("id", .string "web"), ("location", .string "1"),
          ("stores", Value.ofTexts ["a", "b"])]])]

theorem isSinglySpelled_olderPayload : IsSinglySpelled olderPayload := by
  have hzone : (locationRecord.fieldNames
      [("id", .number (.integer 1)), ("type", .string " dmz ")]).Nodup := by decide +kernel
  have hsystem : (systemRecord.fieldNames [("id", .string "web"),
      ("loc", .number (.integer 1)), ("stores", .string "a , b")]).Nodup := by decide +kernel
  simpa [IsSinglySpelled, listRecords, olderPayload, Value.member?, List.lookup_cons,
    isSinglySpelledList_array, isSinglySpelled_object] using ⟨hzone, hsystem⟩

theorem eqvGen_olderPayload : Relation.EqvGen PayloadRewrite olderPayload newerPayload := by
  have hspelling : Attribute.sameIgnoringCase (Text.trim " dmz ") (Text.trim "DMZ") = true := by
    decide +kernel
  have hblank : Text.IsBlankText [' '] := fun c hc => List.mem_singleton.1 hc ▸ rfl
  have hafter : IsPaddedReference "a" "a " :=
    ⟨⟨by decide, by decide, by decide⟩, [], [' '], nofun, hblank, by decide⟩
  have hbefore : IsPaddedReference "b" " b" :=
    ⟨⟨by decide, by decide, by decide⟩, [' '], [], hblank, nofun, by decide⟩
  have hjoined : ",".intercalate ["a ", " b"] = "a , b" := by decide +kernel
  have hstores : ValueRewrite ((systemRecord.fieldName? "stores").map fieldUse)
      (Value.ofTexts ["a", "b"]) (.string "a , b") :=
    hjoined ▸ .joined (.cons hafter (.cons hbefore .nil))
  have hlocation (before after : List (String × Value)) (v : Value) :
      EntityRewrite systemRecord (.object (before ++ ("loc", v) :: after))
        (.object (before ++ ("location", v) :: after)) := .rename before after v rfl
  -- the zone, then a remark, then the system, whose references are read backwards
  refine .trans _ _ _ (.rel _ _ (.member [] _ (.entity [] [] (.value [] _ (.id _))))) ?_
  refine .trans _ _ _ (.rel _ _
    (.member [] _ (.entity [] [] (.value [_] [] (.spelling hspelling))))) ?_
  refine .trans _ _ _ (.rel _ _
    (.addKey [_] _ .null (rfl : listRecords.lookup "remark" = none))) ?_
  refine .trans _ _ _ (.rel _ _ (.member [_, _] [] (.entity [] [] (hlocation [_] _ _)))) ?_
  refine .trans _ _ _ (.rel _ _
    (.member [_, _] [] (.entity [] [] (.value [_] _ (.id _))))) ?_
  exact .symm _ _ (.rel _ _ (.member [_, _] [] (.entity [] [] (.value [_, _] [] hstores))))

/-- Five kinds of rewrites, and the graph of the older payload is that of the newer. -/
theorem ofJson_eq_of_rewrites_olderPayload :
    Relation.EqvGen PayloadRewrite olderPayload newerPayload ∧ IsSinglySpelled olderPayload ∧
      (ofJson olderPayload).mapError GraphError.reported =
        (ofJson newerPayload).mapError GraphError.reported :=
  ⟨eqvGen_olderPayload, isSinglySpelled_olderPayload,
    ofJson_eq_of_rewrites eqvGen_olderPayload isSinglySpelled_olderPayload⟩

end Graph

end ZoneGuard
