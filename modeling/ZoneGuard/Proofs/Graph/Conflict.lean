import Mathlib
import ZoneGuard.Proofs.Graph.WellFormed

/-!
# Records that are refused

A record may be refused because its id is in conflict with one that is
registered.  Conflicts between ids of connections arise in one place only: when
the loop over the connections registers the id of the next one.
-/

namespace ZoneGuard

open Json (Value Record)

/-- Two steps fail if the first does, or the second with its result. -/
theorem except_bind_eq_error_iff {ε α β : Type} {x : Except ε α} {f : α → Except ε β} {e : ε} :
    (x >>= f) = .error e ↔ x = .error e ∨ ∃ a, x = .ok a ∧ f a = .error e := by
  cases x with
  | error e => simp [bind, Except.bind]
  | ok a => simp [bind, Except.bind]

/-- The kind of the ids that are in conflict, if the error is about ids in
conflict. -/
def GraphError.conflictKind? : GraphError → Option EntityKind
  | .duplicateId kind _ => some kind
  | .idCollision kind _ _ _ => some kind
  | _ => none

/-- An id that is registered is a duplicate, and any other with an identifier
in use is in collision with the id that has it. -/
theorem register_eq_error_iff {kind : EntityKind} {table : IdTable} {raw : String}
    {index : Nat} {e : GraphError} :
    register kind table raw index = .error e ↔
      (table.safe? raw ≠ none ∧ e = .duplicateId kind raw) ∨
      (table.safe? raw = none ∧ ∃ existing, table.raw? (Identifier.ofText raw) = some existing ∧
        e = .idCollision kind existing raw (Identifier.ofText raw)) := by
  have hsafe : table.safe? raw = none ↔ (table.ofRaw? raw).isSome = false := by
    simp [IdTable.safe?]
  unfold register IdTable.insert
  cases hknown : (table.ofRaw? raw).isSome with
  | true =>
      have hne : table.safe? raw ≠ none := by simp [hsafe, hknown]
      simp [hne, eq_comm]
  | false =>
      have hnone : table.safe? raw = none := hsafe.2 hknown
      cases hexisting : table.raw? (Identifier.ofText raw) with
      | none => simp [hnone, hexisting]
      | some existing => simp [hnone, hexisting, eq_comm]

theorem conflictKind?_of_register {kind : EntityKind} {table : IdTable} {raw : String}
    {index : Nat} {e : GraphError} (h : register kind table raw index = .error e) :
    e.conflictKind? = some kind := by
  rcases register_eq_error_iff.1 h with ⟨-, rfl⟩ | ⟨-, existing, -, rfl⟩
  · rfl
  · rfl

theorem conflictKind?_of_requiredId {kind : EntityKind} {index : Nat} {r : Record}
    {e : GraphError} (h : requiredId kind index r = .error e) : e.conflictKind? = none := by
  unfold requiredId at h
  split at h
  · cases h
  · cases h
    rfl

namespace Graph

theorem conflictKind?_of_addLocation {g : Graph} {index : Nat} {r : Record} {e : GraphError}
    (h : g.addLocation index r = .error e) : e.conflictKind? ≠ some .connection := by
  rcases except_bind_eq_error_iff.1 h with hid | ⟨raw, -, h⟩
  · simp [conflictKind?_of_requiredId hid]
  rcases except_bind_eq_error_iff.1 h with hregister | ⟨result, -, h⟩
  · simp [conflictKind?_of_register hregister]
  · cases h

theorem conflictKind?_of_addData {g : Graph} {index : Nat} {r : Record} {e : GraphError}
    (h : g.addData index r = .error e) : e.conflictKind? ≠ some .connection := by
  rcases except_bind_eq_error_iff.1 h with hid | ⟨raw, -, h⟩
  · simp [conflictKind?_of_requiredId hid]
  rcases except_bind_eq_error_iff.1 h with hregister | ⟨result, -, h⟩
  · simp [conflictKind?_of_register hregister]
  · cases h

theorem conflictKind?_of_placement {g : Graph} {raw : String} {r : Record} {e : GraphError}
    (h : g.placement raw r = .error e) : e.conflictKind? = none := by
  unfold placement at h
  split at h
  · cases h
    rfl
  · split at h
    · cases h
    · cases h
      rfl

theorem conflictKind?_of_endpoint {g : Graph} {raw : String} {field : ReferenceField}
    {r : Record} {e : GraphError} (h : g.endpoint raw field r = .error e) :
    e.conflictKind? = none := by
  simp only [endpoint] at h
  split at h
  · cases h
  · cases h
    rfl

theorem conflictKind?_of_referToAll {g : Graph} {raws : List String} {e : GraphError}
    (h : g.referToAll raws = .error e) : e.conflictKind? ≠ some .connection := by
  induction raws generalizing g with
  | nil => cases h
  | cons raw raws ih =>
      rcases except_bind_eq_error_iff.1 h with hfirst | ⟨result, -, h⟩
      · unfold referToData at hfirst
        split at hfirst
        · cases hfirst
        · rcases except_bind_eq_error_iff.1 hfirst with hregister | ⟨result, -, hfirst⟩
          · simp [conflictKind?_of_register hregister]
          · cases hfirst
      · rcases except_bind_eq_error_iff.1 h with hrest | ⟨result, -, h⟩
        · exact ih hrest
        · cases h

theorem conflictKind?_of_addSystem {g : Graph} {index : Nat} {r : Record} {e : GraphError}
    (h : g.addSystem index r = .error e) : e.conflictKind? ≠ some .connection := by
  rcases except_bind_eq_error_iff.1 h with hid | ⟨raw, -, h⟩
  · simp [conflictKind?_of_requiredId hid]
  rcases except_bind_eq_error_iff.1 h with hregister | ⟨result, -, h⟩
  · simp [conflictKind?_of_register hregister]
  rcases except_bind_eq_error_iff.1 h with hlocation | ⟨location, -, h⟩
  · simp [conflictKind?_of_placement hlocation]
  rcases except_bind_eq_error_iff.1 h with hstores | ⟨stores, -, h⟩
  · exact conflictKind?_of_referToAll hstores
  · cases h

/-- A connection is refused because of its id, because of an end, or because of
the data it carries. -/
theorem addConnection_eq_error {explicit : List String} {g : Graph} {next index : Nat}
    {r : Record} {e : GraphError} (h : addConnection explicit (g, next) index r = .error e) :
    register .connection g.ids.connections (g.connectionId explicit next r).1 index = .error e ∨
      (∃ field, field ≠ .location ∧
        g.endpoint (g.connectionId explicit next r).1 field r = .error e) ∨
      ∃ table, (g.withConnectionTable table).referToAll (referenceTexts (r.field? "carries")) =
        .error e := by
  rcases except_bind_eq_error_iff.1 h with hregister | ⟨⟨safe, table⟩, -, h⟩
  · exact Or.inl hregister
  rcases except_bind_eq_error_iff.1 h with hsource | ⟨source, -, h⟩
  · exact Or.inr (Or.inl ⟨.source, by decide, hsource⟩)
  rcases except_bind_eq_error_iff.1 h with htarget | ⟨target, -, h⟩
  · exact Or.inr (Or.inl ⟨.target, by decide, htarget⟩)
  rcases except_bind_eq_error_iff.1 h with hcarries | ⟨carries, -, h⟩
  · exact Or.inr (Or.inr ⟨table, hcarries⟩)
  · cases h

theorem register_of_addConnection {explicit : List String} {g : Graph} {next index : Nat}
    {r : Record} {e : GraphError} (h : addConnection explicit (g, next) index r = .error e)
    (hconflict : e.conflictKind? = some .connection) :
    register .connection g.ids.connections (g.connectionId explicit next r).1 index =
      .error e := by
  rcases addConnection_eq_error h with hregister | ⟨field, -, hend⟩ | ⟨table, hcarries⟩
  · exact hregister
  · rw [conflictKind?_of_endpoint hend] at hconflict
    cases hconflict
  · exact absurd hconflict (conflictKind?_of_referToAll hcarries)

theorem conflictKind?_of_addEach {σ : Type} {add : σ → Nat → Record → Except GraphError σ}
    (hadd : ∀ state index r e, add state index r = .error e →
      e.conflictKind? ≠ some .connection)
    {state : σ} {rs : List Record} {e : GraphError} (h : addEach add state 0 rs = .error e) :
    e.conflictKind? ≠ some .connection := by
  obtain ⟨state', done, r, rest, -, -, hrefused⟩ :=
    addEach_eq_error (P := fun _ _ => True) (fun _ _ _ _ _ _ => trivial) trivial h
  exact hadd _ _ _ _ hrefused

/-- A conflict between ids of connections is met in the last loop. -/
theorem connections_of_conflict {p : Payload} {e : GraphError} (h : ofPayload p = .error e)
    (hconflict : e.conflictKind? = some .connection) :
    ∃ g : Graph, g.Consistent ∧ g.connections = [] ∧
      addEach (addConnection (p.connections.filterMap Record.id?)) (g, 0) 0 p.connections =
        .error e := by
  rcases except_bind_eq_error_iff.1 h with hrefused | ⟨g₁, hlocations, h⟩
  · exact absurd hconflict
      (conflictKind?_of_addEach (fun _ _ _ _ => conflictKind?_of_addLocation) hrefused)
  rcases except_bind_eq_error_iff.1 h with hrefused | ⟨g₂, hdata, h⟩
  · exact absurd hconflict
      (conflictKind?_of_addEach (fun _ _ _ _ => conflictKind?_of_addData) hrefused)
  rcases except_bind_eq_error_iff.1 h with hrefused | ⟨g₃, hsystems, h⟩
  · exact absurd hconflict
      (conflictKind?_of_addEach (fun _ _ _ _ => conflictKind?_of_addSystem) hrefused)
  obtain ⟨hconsistent, hempty⟩ := consistent_before_connections hlocations hdata hsystems
  rcases except_bind_eq_error_iff.1 h with hrefused | ⟨result, -, h⟩
  · exact ⟨g₃, hconsistent, hempty, hrefused⟩
  · cases h

end Graph

end ZoneGuard
