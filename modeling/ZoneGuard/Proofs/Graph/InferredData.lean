import Mathlib
import ZoneGuard.Proofs.FirstAppearance
import ZoneGuard.Proofs.Graph.Fault
import ZoneGuard.Proofs.References

/-!
# Data assets that are only referred to

While systems and connections are read, a data asset is inferred for each text that
refers to none.  At any moment there is one for each text so far that is not declared,
in the order in which the texts first appeared: a reference either names an asset that
is there already, declared or inferred, or adds the next one.
-/

namespace ZoneGuard

open Json (Value Record)

/-! ## Texts that are not declared -/

/-- The texts that are not among the declared ones, each once and in the order of their
first appearance. -/
def undeclaredTexts (declared texts : List String) : List String :=
  texts.eraseDups.filter (· ∉ declared)

section Undeclared

variable {declared texts : List String} {raw : String}

theorem mem_undeclaredTexts :
    raw ∈ undeclaredTexts declared texts ↔ raw ∈ texts ∧ raw ∉ declared := by
  simp [undeclaredTexts, List.mem_eraseDups]

theorem undeclaredTexts_append_of_mem (h : raw ∈ declared ∨ raw ∈ texts) :
    undeclaredTexts declared (texts ++ [raw]) = undeclaredTexts declared texts := by
  rw [undeclaredTexts, eraseDups_append_singleton]
  by_cases htexts : raw ∈ texts
  · rw [if_pos htexts, undeclaredTexts]
  · have hdeclared : raw ∈ declared := h.resolve_right htexts
    simp [htexts, hdeclared, undeclaredTexts]

theorem undeclaredTexts_append_of_notMem (hdeclared : raw ∉ declared) (htexts : raw ∉ texts) :
    undeclaredTexts declared (texts ++ [raw]) = undeclaredTexts declared texts ++ [raw] := by
  rw [undeclaredTexts, eraseDups_append_singleton, if_neg htexts]
  simp [hdeclared, undeclaredTexts]

/-- Earlier texts are first referred to earlier. -/
theorem pairwise_undeclaredTexts (declared texts : List String) :
    (undeclaredTexts declared texts).Pairwise fun a b => texts.idxOf a < texts.idxOf b :=
  (pairwise_idxOf_eraseDups texts).filter _

end Undeclared

namespace Graph

/-! ## One more reference -/

/-- The data assets are the declared ones and one for each text that is not declared. -/
def Infers (g : Graph) (declared : List DataAsset) (texts : List String) : Prop :=
  g.data = declared ++ (undeclaredTexts (declared.map (·.id.raw)) texts).map fun raw =>
    { id := .ofText raw, grade := .sensitive, contentType := .document, inferred := true }

namespace Infers

variable {g g' : Graph} {declared : List DataAsset} {texts : List String} {raw : String}

/-- The ids of data assets are the declared ones and the texts so far. -/
theorem mem_raws_iff (h : g.Infers declared texts) :
    raw ∈ g.data.map (·.id.raw) ↔ raw ∈ declared.map (·.id.raw) ∨ raw ∈ texts := by
  have hinferred : (undeclaredTexts (declared.map (·.id.raw)) texts).map
      (fun text => (EntityId.ofText text).raw) =
        undeclaredTexts (declared.map (·.id.raw)) texts := List.map_id' _
  rw [h, List.map_append, List.map_map, Function.comp_def, hinferred, List.mem_append,
    mem_undeclaredTexts]
  by_cases hdeclared : raw ∈ declared.map (·.id.raw)
  · simp only [hdeclared, true_or]
  · simp only [hdeclared, not_false_eq_true, and_true]

/-- A reference adds its text, and a data asset if the text is new. -/
theorem referToData (h : g.Infers declared texts)
    (hmirrors : g.ids.data.Mirrors (g.data.map (·.id))) {id : Identifier}
    (hrefer : g.referToData raw = .ok (id, g')) : g'.Infers declared (texts ++ [raw]) := by
  have hraws : (g.data.map (·.id)).map (·.raw) = g.data.map (·.id.raw) := List.map_map
  unfold Graph.referToData at hrefer
  split at hrefer
  · next hknown =>
    cases hrefer
    have hmem : raw ∈ g.data.map (·.id.raw) := by
      rw [← hraws]
      exact hmirrors.mem_of_safe? hknown
    rw [Infers, undeclaredTexts_append_of_mem (h.mem_raws_iff.1 hmem)]
    exact h
  · next hunknown =>
    obtain ⟨⟨safe, table⟩, hregister, hresult⟩ := except_bind_eq_ok_iff.1 hrefer
    obtain ⟨-, -, rfl, -⟩ := IdTable.insert_eq_ok_iff.1 (register_eq_ok_iff.1 hregister)
    cases hresult
    have hnotMem := (hmirrors.safe?_eq_none_iff raw).1 hunknown
    rw [hraws, h.mem_raws_iff, not_or] at hnotMem
    rw [Infers, undeclaredTexts_append_of_notMem hnotMem.1 hnotMem.2, List.map_append,
      ← List.append_assoc, ← h]
    rfl

/-- References are settled one after the other. -/
theorem referToAll {raws : List String} (h : g.Infers declared texts)
    (hmirrors : g.ids.data.Mirrors (g.data.map (·.id))) {ids : List Identifier}
    (hrefer : g.referToAll raws = .ok (ids, g')) : g'.Infers declared (texts ++ raws) := by
  induction raws generalizing g ids texts with
  | nil =>
      cases hrefer
      rwa [List.append_nil]
  | cons raw raws ih =>
      obtain ⟨⟨id, between⟩, hfirst, hrest⟩ := except_bind_eq_ok_iff.1 hrefer
      obtain ⟨⟨ids', last⟩, hothers, hresult⟩ := except_bind_eq_ok_iff.1 hrest
      cases hresult
      have hbetween := h.referToData hmirrors hfirst
      obtain ⟨added, table, rfl, hmirrors', -⟩ := referToData_eq_ok hmirrors hfirst
      rw [← List.singleton_append, ← List.append_assoc]
      exact ih hbetween hmirrors' hothers

/-! ## One more record -/

theorem addSystem (h : g.Infers declared texts)
    (hmirrors : g.ids.data.Mirrors (g.data.map (·.id))) {index : Nat} {r : Record}
    (hadd : g.addSystem index r = .ok g') : g'.Infers declared (texts ++ r.storedTexts) := by
  obtain ⟨raw, safe, table, location, stores, between, -, -, -, hstores, rfl⟩ :=
    addSystem_eq_ok_iff.1 hadd
  have hbetween : between.Infers declared (texts ++ r.storedTexts) :=
    Infers.referToAll (g := g.withSystemTable table) h hmirrors hstores
  exact hbetween

theorem addConnection (h : g.Infers declared texts)
    (hmirrors : g.ids.data.Mirrors (g.data.map (·.id))) {explicit : List String}
    {next next' index : Nat} {r : Record}
    (hadd : Graph.addConnection explicit (g, next) index r = .ok (g', next')) :
    g'.Infers declared (texts ++ r.carriedTexts) := by
  obtain ⟨raw, safe, table, source, target, carries, between, -, -, -, -, hcarries, rfl⟩ :=
    addConnection_eq_ok_iff.1 hadd
  have hbetween : between.Infers declared (texts ++ r.carriedTexts) :=
    Infers.referToAll (g := g.withConnectionTable table) h hmirrors hcarries
  exact hbetween

end Infers

/-! ## All records -/

/-- The data assets of an accepted payload. -/
theorem exists_infers_of_ofPayload {p : Payload} {g : Graph} (h : ofPayload p = .ok g) :
    ∃ declared, List.Forall₂ DataAsset.IsGivenBy declared p.data ∧
      g.Infers declared p.dataTexts := by
  obtain ⟨g₁, g₂, g₃, next, hlocations, hdata, hsystems, hconnections⟩ :=
    ofPayload_eq_ok_iff.1 h
  have hg₂ := (isGivenBy_of_addLocation hlocations).data_of_addData hdata
  have hinfers₂ : g₂.Infers g₂.data [] := (List.append_nil _).symm
  obtain ⟨hg₃, hinfers₃⟩ := addEach_invariant
    (P := fun g done => g.IsGivenBy ⟨p.locations, p.data, done, []⟩ ∧
      g.Infers g₂.data (done.flatMap Record.storedTexts))
    (by
      rintro g done r g' ⟨hg, hinfers⟩ hadd
      rw [List.flatMap_append, List.flatMap_singleton]
      exact ⟨hg.addSystem hadd, hinfers.addSystem (hg.consistent.mirrors .data) hadd⟩)
    ⟨hg₂, hinfers₂⟩ hsystems
  obtain ⟨-, hinfers⟩ := addEach_invariant
    (P := fun state done => state.1.IsGivenBy ⟨p.locations, p.data, p.systems, done⟩ ∧
      state.1.Infers g₂.data
        (p.systems.flatMap Record.storedTexts ++ done.flatMap Record.carriedTexts))
    (by
      rintro ⟨g, next⟩ done r ⟨g', next'⟩ ⟨hg, hinfers⟩ hadd
      rw [List.flatMap_append, List.flatMap_singleton, ← List.append_assoc]
      exact ⟨hg.addConnection hadd, hinfers.addConnection (hg.consistent.mirrors .data) hadd⟩)
    ⟨hg₃, by rwa [List.flatMap_nil, List.append_nil]⟩ hconnections
  exact ⟨g₂.data, hg₂.data_of_nil rfl, hinfers⟩

/-- The data assets of a graph, and where systems and connections have data from. -/
structure HasDataOf (g : Graph) (p : Payload) (declared : List DataAsset)
    (undeclared : List String) : Prop where
  /-- The declared data assets come first, in the order of the payload. -/
  data : g.data = declared ++ undeclared.map fun raw =>
    { id := .ofText raw, grade := .sensitive, contentType := .document, inferred := true }
  isGivenBy_declared : List.Forall₂ DataAsset.IsGivenBy declared p.data
  inferred_declared : ∀ d ∈ declared, d.inferred = false
  /-- A data asset is inferred from each text that is referred to and not declared. -/
  mem_undeclared_iff : ∀ raw, raw ∈ undeclared ↔ raw ∈ p.dataTexts ∧ raw ∉ p.ids .data
  /-- It is inferred once, and in the order of the first references. -/
  pairwise_undeclared : undeclared.Pairwise fun a b => p.dataTexts.idxOf a < p.dataTexts.idxOf b
  stored : List.Forall₂ (fun s r => ListsReferences (r.field? "stores") r.storedTexts ∧
    s.stores = r.storedTexts.map .ofText) g.systems p.systems
  carried : List.Forall₂ (fun c r => ListsReferences (r.field? "carries") r.carriedTexts ∧
    c.carries = r.carriedTexts.map .ofText) g.connections p.connections

/-- The data assets of a graph that is read are those that are declared and, behind
them, those that are only referred to, and no reference is dropped. -/
theorem hasDataOf_of_ofJson {v : Value} {g : Graph} (h : ofJson v = .ok g) :
    ∃ p declared undeclared, Payload.read v = .ok p ∧ g.HasDataOf p declared undeclared := by
  unfold ofJson at h
  split at h
  · cases h
  · next p hread =>
    have hg := isGivenBy_of_ofPayload h
    obtain ⟨declared, hdeclared, hinfers⟩ := exists_infers_of_ofPayload h
    have hraws : declared.map (·.id.raw) = p.ids .data :=
      map_eq_filterMap_id? (fun _ _ _ => id?_of_isGivenBy_data) hdeclared
    rw [Infers, hraws] at hinfers
    refine ⟨p, declared, undeclaredTexts (p.ids .data) p.dataTexts, hread, hinfers, hdeclared,
      ?_, fun _ => mem_undeclaredTexts, pairwise_undeclaredTexts _ _, hg.systems.imp ?_,
      hg.connections.imp ?_⟩
    · intro d hd
      obtain ⟨r, -, raw, -, rfl⟩ := exists_of_forall₂_of_mem hdeclared hd
      rfl
    · rintro s r ⟨raw, zone, -, -, rfl⟩
      exact ⟨listsReferences_iff.2 rfl, rfl⟩
    · rintro c r ⟨raw, -, rfl⟩
      exact ⟨listsReferences_iff.2 rfl, rfl⟩

/-- References in all three forms, some of them repeated, to one data asset that is
declared and to three that are not. -/
def referringPayload : Value :=
  .object
    [("connections", .array
      [.object
        [("carries", .ofNat 7), ("from", .string "s"), ("to", .string "s")],
       .object
        [("carries", .array [.string "x y", .null, .string "d"]), ("from", .string "s"),
         ("to", .string "s")]]),
     ("data", .array [.object [("id", .string "d")]]),
     ("locations", .array [.object [("id", .string "z")]]),
     ("systems", .array
      [.object
        [("id", .string "s"), ("location", .string "z"), ("stores", .string " e, d,,e,x y ")]])]

theorem hasDataOf_of_ofJson_referringPayload :
    ∃ g p declared undeclared, ofJson referringPayload = .ok g ∧
      Payload.read referringPayload = .ok p ∧ g.HasDataOf p declared undeclared ∧
      g.data.map (fun d => (d.id.raw, d.inferred)) =
        [("d", false), ("e", true), ("x y", true), ("7", true)] := by
  have hview : (ofJson referringPayload).toOption.map
      (fun g => g.data.map fun d => (d.id.raw, d.inferred)) =
        some [("d", false), ("e", true), ("x y", true), ("7", true)] := by decide +kernel
  obtain ⟨g, hg, hdata⟩ := Option.map_eq_some_iff.1 hview
  have hok := except_toOption_eq_some_iff.1 hg
  obtain ⟨p, declared, undeclared, hread, hhas⟩ := hasDataOf_of_ofJson hok
  exact ⟨g, p, declared, undeclared, hok, hread, hhas, hdata⟩

end Graph

end ZoneGuard
