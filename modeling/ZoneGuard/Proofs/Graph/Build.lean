import Mathlib
import ZoneGuard.Graph.Build
import ZoneGuard.Proofs.IdTable

/-!
# What one record adds to a graph

A record is accepted in a few steps, each of which may refuse it.  The lemmas
here say exactly what an accepted record has contributed, so that no later
argument opens the functions that add it.
-/

namespace ZoneGuard

open Json (Value Record)

/-- Two steps succeed exactly if the first does, and the second with its result. -/
theorem except_bind_eq_ok_iff {ε α β : Type} {x : Except ε α} {f : α → Except ε β} {b : β} :
    (x >>= f) = .ok b ↔ ∃ a, x = .ok a ∧ f a = .ok b := by
  cases x with
  | error e => simp [bind, Except.bind]
  | ok a => simp [bind, Except.bind]

theorem except_toOption_eq_some_iff {ε α : Type} {x : Except ε α} {a : α} :
    x.toOption = some a ↔ x = .ok a := by
  cases x with
  | error e => simp [Except.toOption]
  | ok b => simp [Except.toOption]

theorem register_eq_ok_iff {kind : EntityKind} {table : IdTable} {raw : String} {index : Nat}
    {result : Identifier × IdTable} :
    register kind table raw index = .ok result ↔ table.insert raw index = .ok result := by
  unfold register
  split
  · next h => simp [h]
  · next h => simp [h]
  · next h => simp [h]

theorem requiredId_eq_ok_iff {kind : EntityKind} {index : Nat} {r : Record} {raw : String} :
    requiredId kind index r = .ok raw ↔ r.id? = some raw := by
  unfold requiredId
  split
  · next h => simp [h]
  · next h => simp [h]

section Loops

variable {σ : Type} {add : σ → Nat → Record → Except GraphError σ} {P : σ → List Record → Prop}

/-- An invariant of the state and the records added so far holds at the end of
a loop, or else before the record that is refused. -/
theorem addEach_run
    (hstep : ∀ state done r state', P state done → add state done.length r = .ok state' →
      P state' (done ++ [r]))
    {state : σ} {done rs : List Record} (hinv : P state done) :
    match addEach add state done.length rs with
    | .ok state' => P state' (done ++ rs)
    | .error e => ∃ state' done' r rest, done ++ rs = done' ++ r :: rest ∧ P state' done' ∧
        add state' done'.length r = .error e := by
  induction rs generalizing state done with
  | nil => simpa [addEach] using hinv
  | cons r rs ih =>
      unfold addEach
      cases hadd : add state done.length r with
      | error e => exact ⟨state, done, r, rs, rfl, hinv, hadd⟩
      | ok state₁ =>
          have hrest := ih (hstep _ _ _ _ hinv hadd)
          simpa only [List.length_append, List.length_singleton, List.append_assoc,
            List.singleton_append] using hrest

/-- What every record preserves holds when all are added. -/
theorem addEach_invariant
    (hstep : ∀ state done r state', P state done → add state done.length r = .ok state' →
      P state' (done ++ [r]))
    {state state' : σ} {rs : List Record} (hinv : P state [])
    (h : addEach add state 0 rs = .ok state') : P state' rs := by
  have hrun := @addEach_run _ _ _ hstep _ [] rs hinv
  rw [List.length_nil, h] at hrun
  exact hrun

/-- An error arises at some record, and the invariant holds before it. -/
theorem addEach_eq_error
    (hstep : ∀ state done r state', P state done → add state done.length r = .ok state' →
      P state' (done ++ [r]))
    {state : σ} {rs : List Record} {e : GraphError} (hinv : P state [])
    (h : addEach add state 0 rs = .error e) :
    ∃ state' done r rest, rs = done ++ r :: rest ∧ P state' done ∧
      add state' done.length r = .error e := by
  have hrun := @addEach_run _ _ _ hstep _ [] rs hinv
  rw [List.length_nil, h] at hrun
  exact hrun

/-- Records that add the same one by one add the same together. -/
theorem addEach_congr {R : Record → Record → Prop} {rs rs' : List Record}
    (h : List.Forall₂ R rs rs')
    (hadd : ∀ r r', R r r' → ∀ state index, add state index r = add state index r')
    (state : σ) (index : Nat) :
    addEach add state index rs = addEach add state index rs' := by
  induction h generalizing state index with
  | nil => rfl
  | cons h _ ih =>
      rw [addEach, addEach, hadd _ _ h]
      cases add state index _ with
      | error e => rfl
      | ok state => exact ih state (index + 1)

/-- A loop over two lists of records is a loop over one after the other. -/
theorem addEach_append_eq_ok_iff {state state' : σ} {index : Nat} {left right : List Record} :
    addEach add state index (left ++ right) = .ok state' ↔
      ∃ between, addEach add state index left = .ok between ∧
        addEach add between (index + left.length) right = .ok state' := by
  induction left generalizing state index with
  | nil => simp [addEach]
  | cons r left ih =>
      rw [List.cons_append, addEach, addEach]
      cases add state index r with
      | error e => simp
      | ok next => rw [ih, List.length_cons, Nat.add_comm left.length, Nat.add_assoc]

theorem addEach_cons_eq_ok_iff {state state' : σ} {index : Nat} {r : Record}
    {rs : List Record} :
    addEach add state index (r :: rs) = .ok state' ↔
      ∃ between, add state index r = .ok between ∧
        addEach add between (index + 1) rs = .ok state' := by
  rw [addEach]
  cases add state index r with
  | error e => simp
  | ok next => simp

end Loops

namespace Graph

theorem addLocation_eq_ok_iff {g g' : Graph} {index : Nat} {r : Record} :
    g.addLocation index r = .ok g' ↔
      ∃ raw safe table, r.id? = some raw ∧
        g.ids.locations.insert raw index = .ok (safe, table) ∧
        g' = { g with
          locations := g.locations ++ [.ofRecord ⟨raw, safe⟩ r]
          ids := { g.ids with locations := table } } := by
  simp only [addLocation, except_bind_eq_ok_iff, requiredId_eq_ok_iff, register_eq_ok_iff,
    Prod.exists, pure, Except.pure, Except.ok.injEq]
  constructor
  · rintro ⟨raw, hraw, safe, table, hinsert, rfl⟩
    exact ⟨raw, safe, table, hraw, hinsert, rfl⟩
  · rintro ⟨raw, safe, table, hraw, hinsert, rfl⟩
    exact ⟨raw, hraw, safe, table, hinsert, rfl⟩

theorem addData_eq_ok_iff {g g' : Graph} {index : Nat} {r : Record} :
    g.addData index r = .ok g' ↔
      ∃ raw safe table, r.id? = some raw ∧
        g.ids.data.insert raw index = .ok (safe, table) ∧
        g' = { g with
          data := g.data ++ [.ofRecord ⟨raw, safe⟩ r]
          ids := { g.ids with data := table } } := by
  simp only [addData, except_bind_eq_ok_iff, requiredId_eq_ok_iff, register_eq_ok_iff,
    Prod.exists, pure, Except.pure, Except.ok.injEq]
  constructor
  · rintro ⟨raw, hraw, safe, table, hinsert, rfl⟩
    exact ⟨raw, safe, table, hraw, hinsert, rfl⟩
  · rintro ⟨raw, safe, table, hraw, hinsert, rfl⟩
    exact ⟨raw, hraw, safe, table, hinsert, rfl⟩

/-- A system is placed exactly if its zone is registered. -/
theorem placement_eq_ok_iff {g : Graph} {raw : String} {r : Record} {id : Identifier} :
    g.placement raw r = .ok id ↔
      ∃ target, (r.field? "location").bind idText? = some target ∧
        g.ids.locations.safe? target = some id := by
  unfold placement
  split
  · next h => simp [h]
  · next target h =>
    simp only [h, Option.some.injEq, exists_eq_left']
    split
    · next h' => simp [h']
    · next h' => simp [h']

/-- An end is accepted exactly if its system is registered; an absent one reads as the
empty id. -/
theorem endpoint_eq_ok_iff {g : Graph} {raw : String} {field : ReferenceField} {r : Record}
    {id : Identifier} :
    g.endpoint raw field r = .ok id ↔
      g.ids.systems.safe? (((r.field? field.name).bind idText?).getD "") = some id := by
  simp only [endpoint]
  split
  · next h => simp [h]
  · next h => simp [h]

def withSystemTable (g : Graph) (table : IdTable) : Graph :=
  { g with ids := { g.ids with systems := table } }

def withConnectionTable (g : Graph) (table : IdTable) : Graph :=
  { g with ids := { g.ids with connections := table } }

/-- What adding a system takes and does. -/
theorem addSystem_eq_ok_iff {g g' : Graph} {index : Nat} {r : Record} :
    g.addSystem index r = .ok g' ↔
      ∃ raw safe table location stores g₂, r.id? = some raw ∧
        g.ids.systems.insert raw index = .ok (safe, table) ∧
        g.placement raw r = .ok location ∧
        (g.withSystemTable table).referToAll (referenceTexts (r.field? "stores")) =
          .ok (stores, g₂) ∧
        g' = { g₂ with
          systems := g₂.systems ++ [.ofRecord ⟨raw, safe⟩ location stores r] } := by
  simp only [addSystem, except_bind_eq_ok_iff, requiredId_eq_ok_iff, register_eq_ok_iff,
    Prod.exists, pure, Except.pure, Except.ok.injEq]
  constructor
  · rintro ⟨raw, hraw, safe, table, hinsert, location, hlocation, stores, g₂, hstores, rfl⟩
    exact ⟨raw, safe, table, location, stores, g₂, hraw, hinsert, hlocation, hstores, rfl⟩
  · rintro ⟨raw, safe, table, location, stores, g₂, hraw, hinsert, hlocation, hstores, rfl⟩
    exact ⟨raw, hraw, safe, table, hinsert, location, hlocation, stores, g₂, hstores, rfl⟩

/-- What adding a connection takes and does. -/
theorem addConnection_eq_ok_iff {explicit : List String} {g g' : Graph} {next next' index : Nat}
    {r : Record} :
    addConnection explicit (g, next) index r = .ok (g', next') ↔
      ∃ raw safe table source target carries g₂,
        g.connectionId explicit next r = (raw, next') ∧
        g.ids.connections.insert raw index = .ok (safe, table) ∧
        g.endpoint raw .source r = .ok source ∧
        g.endpoint raw .target r = .ok target ∧
        (g.withConnectionTable table).referToAll (referenceTexts (r.field? "carries")) =
          .ok (carries, g₂) ∧
        g' = { g₂ with
          connections := g₂.connections ++ [.ofRecord ⟨raw, safe⟩ source target carries r] } := by
  simp only [addConnection, except_bind_eq_ok_iff, register_eq_ok_iff, Prod.exists, pure,
    Except.pure, Except.ok.injEq, Prod.mk.injEq]
  constructor
  · rintro ⟨safe, table, hinsert, source, hsource, target, htarget, carries, g₂, hcarries,
      rfl, hnext⟩
    exact ⟨_, safe, table, source, target, carries, g₂, Prod.ext rfl hnext, hinsert, hsource,
      htarget, hcarries, rfl⟩
  · rintro ⟨raw, safe, table, source, target, carries, g₂, hid, hinsert, hsource, htarget,
      hcarries, rfl⟩
    rw [hid]
    exact ⟨safe, table, hinsert, source, hsource, target, htarget, carries, g₂, hcarries,
      rfl, rfl⟩

/-- A graph is built in four stages, each from the one before. -/
theorem ofPayload_eq_ok_iff {p : Payload} {g : Graph} :
    ofPayload p = .ok g ↔
      ∃ g₁ g₂ g₃ next, addEach addLocation {} 0 p.locations = .ok g₁ ∧
        addEach addData g₁ 0 p.data = .ok g₂ ∧
        addEach addSystem g₂ 0 p.systems = .ok g₃ ∧
        addEach (addConnection (p.connections.filterMap Record.id?)) (g₃, 0) 0 p.connections =
          .ok (g, next) := by
  simp only [ofPayload, except_bind_eq_ok_iff, Prod.exists, pure, Except.pure,
    Except.ok.injEq]
  constructor
  · rintro ⟨g₁, h₁, g₂, h₂, g₃, h₃, g₄, next, h₄, rfl⟩
    exact ⟨g₁, g₂, g₃, next, h₁, h₂, h₃, h₄⟩
  · rintro ⟨g₁, g₂, g₃, next, h₁, h₂, h₃, h₄⟩
    exact ⟨g₁, h₁, g₂, h₂, g₃, h₃, g, next, h₄, rfl⟩

end Graph

end ZoneGuard
