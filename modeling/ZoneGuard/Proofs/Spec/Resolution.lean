import Mathlib
import ZoneGuard.Proofs.Graph.WellFormed

/-!
# References that resolve

A graph has a specification exactly if its lists have what its systems and connections
refer to, whatever its tables of ids say.  The error is the first reference that they
do not have.
-/

namespace ZoneGuard

/-- The lists of the graph have what the system refers to. -/
structure System.IsResolved (s : System) (g : Graph) : Prop where
  location : s.location ∈ g.identifiers .location
  stores : ∀ id ∈ s.stores, id ∈ g.identifiers .data

/-- The lists of the graph have what the connection refers to. -/
structure Connection.IsResolved (c : Connection) (g : Graph) : Prop where
  source : c.source ∈ g.identifiers .system
  target : c.target ∈ g.identifiers .system
  carries : ∀ id ∈ c.carries, id ∈ g.identifiers .data

/-- The reference is the first of the system that the lists do not have. -/
inductive System.FirstUnresolved (s : System) (g : Graph) : Reference → Prop where
  | location (h : s.location ∉ g.identifiers .location) :
      s.FirstUnresolved g ⟨.system, s.id.safe, "loc", .location, s.location⟩
  | stores (hlocation : s.location ∈ g.identifiers .location) {before after : List Identifier}
      {id : Identifier} (hsplit : s.stores = before ++ id :: after)
      (hbefore : ∀ other ∈ before, other ∈ g.identifiers .data) (h : id ∉ g.identifiers .data) :
      s.FirstUnresolved g ⟨.system, s.id.safe, "stores", .data, id⟩

/-- The reference is the first of the connection that the lists do not have. -/
inductive Connection.FirstUnresolved (c : Connection) (g : Graph) : Reference → Prop where
  | source (h : c.source ∉ g.identifiers .system) :
      c.FirstUnresolved g ⟨.connection, c.id.safe, "from", .system, c.source⟩
  | target (hsource : c.source ∈ g.identifiers .system) (h : c.target ∉ g.identifiers .system) :
      c.FirstUnresolved g ⟨.connection, c.id.safe, "to", .system, c.target⟩
  | carries (hsource : c.source ∈ g.identifiers .system)
      (htarget : c.target ∈ g.identifiers .system) {before after : List Identifier}
      {id : Identifier} (hsplit : c.carries = before ++ id :: after)
      (hbefore : ∀ other ∈ before, other ∈ g.identifiers .data) (h : id ∉ g.identifiers .data) :
      c.FirstUnresolved g ⟨.connection, c.id.safe, "carries", .data, id⟩

namespace Graph

/-- The lists have what the systems and connections refer to. -/
structure IsResolved (g : Graph) : Prop where
  systems : ∀ s ∈ g.systems, s.IsResolved g
  connections : ∀ c ∈ g.connections, c.IsResolved g

/-- The reference is the first that the lists do not have, systems being looked at before
connections. -/
inductive FirstUnresolved (g : Graph) : Reference → Prop where
  | system {before after : List System} {s : System} {r : Reference}
      (hsplit : g.systems = before ++ s :: after) (hbefore : ∀ other ∈ before, other.IsResolved g)
      (h : s.FirstUnresolved g r) : g.FirstUnresolved r
  | connection (hsystems : ∀ s ∈ g.systems, s.IsResolved g) {before after : List Connection}
      {c : Connection} {r : Reference} (hsplit : g.connections = before ++ c :: after)
      (hbefore : ∀ other ∈ before, other.IsResolved g) (h : c.FirstUnresolved g r) :
      g.FirstUnresolved r

variable {g : Graph}

theorem unresolved?_cons_of_mem {r : Reference} (h : r.target ∈ g.identifiers r.targetKind)
    (refs : List Reference) : g.unresolved? (r :: refs) = g.unresolved? refs := by
  have hresolves := (g.resolves_iff r).2 h
  exact List.find?_cons_of_neg (by simp [hresolves])

theorem unresolved?_cons_of_notMem {r : Reference} (h : r.target ∉ g.identifiers r.targetKind)
    (refs : List Reference) : g.unresolved? (r :: refs) = some r := by
  have hresolves : g.resolves r = false := Bool.eq_false_iff.2 fun htrue =>
    h ((g.resolves_iff r).1 htrue)
  exact List.find?_cons_of_pos (by simp [hresolves])

/-! References of one field to data assets. -/

section Lists

variable {ids : List Identifier} {toReference : Identifier → Reference}
  (h : ∀ id, (toReference id).targetKind = .data ∧ (toReference id).target = id)

include h

theorem resolves_toReference_iff (id : Identifier) :
    g.resolves (toReference id) = true ↔ id ∈ g.identifiers .data := by
  rw [resolves_iff, (h id).1, (h id).2]

/-- No reference of a list is unresolved exactly if all targets are there. -/
theorem unresolved?_map_eq_none_iff :
    g.unresolved? (ids.map toReference) = none ↔ ∀ id ∈ ids, id ∈ g.identifiers .data := by
  rw [unresolved?, List.find?_eq_none, List.forall_mem_map]
  refine forall₂_congr fun id _ => ?_
  rw [Bool.not_eq_true, Bool.not_eq_false', resolves_toReference_iff h]

/-- The unresolved reference is the first whose target is not there. -/
theorem unresolved?_map_eq_some_iff {r : Reference} :
    g.unresolved? (ids.map toReference) = some r ↔
      ∃ before id after, ids = before ++ id :: after ∧
        (∀ other ∈ before, other ∈ g.identifiers .data) ∧ id ∉ g.identifiers .data ∧
        toReference id = r := by
  have hunresolved (id : Identifier) :
      (!g.resolves (toReference id)) = true ↔ id ∉ g.identifiers .data := by
    rw [Bool.not_eq_true', ← Bool.not_eq_true, resolves_toReference_iff h]
  simp only [unresolved?, List.find?_map, Option.map_eq_some_iff, List.find?_eq_some_iff_append,
    Function.comp_apply, hunresolved, Bool.not_not, resolves_toReference_iff h]
  constructor
  · rintro ⟨id, ⟨hid, before, after, hsplit, hbefore⟩, heq⟩
    exact ⟨before, id, after, hsplit, hbefore, hid, heq⟩
  · rintro ⟨before, id, after, hsplit, hbefore, hid, heq⟩
    exact ⟨id, ⟨hid, before, after, hsplit, hbefore⟩, heq⟩

end Lists

/-! The references of one entity. -/

/-- A system has no unresolved reference exactly if it is resolved. -/
theorem unresolved?_system_eq_none_iff (s : System) :
    g.unresolved? s.references = none ↔ s.IsResolved g := by
  by_cases hlocation : s.location ∈ g.identifiers .location
  · rw [System.references, unresolved?_cons_of_mem hlocation,
      unresolved?_map_eq_none_iff fun _ => ⟨rfl, rfl⟩]
    exact ⟨fun hstores => ⟨hlocation, hstores⟩, fun hs => hs.stores⟩
  · rw [System.references, unresolved?_cons_of_notMem hlocation]
    exact ⟨nofun, fun hs => absurd hs.location hlocation⟩

/-- The first unresolved reference of a system is its zone, or in what it stores. -/
theorem unresolved?_system_eq_some_iff (s : System) {r : Reference} :
    g.unresolved? s.references = some r ↔ s.FirstUnresolved g r := by
  by_cases hlocation : s.location ∈ g.identifiers .location
  · rw [System.references, unresolved?_cons_of_mem hlocation,
      unresolved?_map_eq_some_iff fun _ => ⟨rfl, rfl⟩]
    constructor
    · rintro ⟨before, id, after, hsplit, hbefore, hid, rfl⟩
      exact .stores hlocation hsplit hbefore hid
    · rintro (hnone | ⟨-, hsplit, hbefore, hid⟩)
      · exact absurd hlocation hnone
      · exact ⟨_, _, _, hsplit, hbefore, hid, rfl⟩
  · rw [System.references, unresolved?_cons_of_notMem hlocation]
    constructor
    · rintro ⟨⟩
      exact .location hlocation
    · rintro (_ | ⟨hsome, -⟩)
      · rfl
      · exact absurd hsome hlocation

theorem unresolved?_connection_eq_none_iff (c : Connection) :
    g.unresolved? c.references = none ↔ c.IsResolved g := by
  by_cases hsource : c.source ∈ g.identifiers .system
  · by_cases htarget : c.target ∈ g.identifiers .system
    · rw [Connection.references, unresolved?_cons_of_mem hsource, unresolved?_cons_of_mem htarget,
        unresolved?_map_eq_none_iff fun _ => ⟨rfl, rfl⟩]
      exact ⟨fun hcarries => ⟨hsource, htarget, hcarries⟩, fun hc => hc.carries⟩
    · rw [Connection.references, unresolved?_cons_of_mem hsource,
        unresolved?_cons_of_notMem htarget]
      exact ⟨nofun, fun hc => absurd hc.target htarget⟩
  · rw [Connection.references, unresolved?_cons_of_notMem hsource]
    exact ⟨nofun, fun hc => absurd hc.source hsource⟩

/-- The first unresolved reference of a connection is an end, or in what it carries. -/
theorem unresolved?_connection_eq_some_iff (c : Connection) {r : Reference} :
    g.unresolved? c.references = some r ↔ c.FirstUnresolved g r := by
  by_cases hsource : c.source ∈ g.identifiers .system
  · by_cases htarget : c.target ∈ g.identifiers .system
    · rw [Connection.references, unresolved?_cons_of_mem hsource, unresolved?_cons_of_mem htarget,
        unresolved?_map_eq_some_iff fun _ => ⟨rfl, rfl⟩]
      constructor
      · rintro ⟨before, id, after, hsplit, hbefore, hid, rfl⟩
        exact .carries hsource htarget hsplit hbefore hid
      · rintro (hnone | ⟨-, hnone⟩ | ⟨-, -, hsplit, hbefore, hid⟩)
        · exact absurd hsource hnone
        · exact absurd htarget hnone
        · exact ⟨_, _, _, hsplit, hbefore, hid, rfl⟩
    · rw [Connection.references, unresolved?_cons_of_mem hsource,
        unresolved?_cons_of_notMem htarget]
      constructor
      · rintro ⟨⟩
        exact .target hsource htarget
      · rintro (hnone | - | ⟨-, hsome⟩)
        · exact absurd hsource hnone
        · rfl
        · exact absurd hsome htarget
  · rw [Connection.references, unresolved?_cons_of_notMem hsource]
    constructor
    · rintro ⟨⟩
      exact .source hsource
    · rintro (- | ⟨hsome⟩ | ⟨hsome⟩)
      · rfl
      · exact absurd hsome hsource
      · exact absurd hsome hsource

/-! All references. -/

theorem unresolved?_references (g : Graph) : g.unresolved? g.references =
    (g.systems.findSome? fun s => g.unresolved? s.references).or
      (g.connections.findSome? fun c => g.unresolved? c.references) := by
  rw [references, unresolved?_append, unresolved?, unresolved?, List.find?_flatMap,
    List.find?_flatMap]
  rfl

/-- A graph has no unresolved reference exactly if it is resolved. -/
theorem unresolved?_references_eq_none_iff :
    g.unresolved? g.references = none ↔ g.IsResolved := by
  rw [unresolved?_references, Option.or_eq_none_iff, List.findSome?_eq_none_iff,
    List.findSome?_eq_none_iff]
  simp only [unresolved?_system_eq_none_iff, unresolved?_connection_eq_none_iff]
  exact ⟨fun ⟨hs, hc⟩ => ⟨hs, hc⟩, fun ⟨hs, hc⟩ => ⟨hs, hc⟩⟩

/-- Systems are looked at before connections. -/
theorem unresolved?_references_eq_some_iff {r : Reference} :
    g.unresolved? g.references = some r ↔ g.FirstUnresolved r := by
  rw [unresolved?_references, Option.or_eq_some_iff]
  simp only [List.findSome?_eq_some_iff, List.findSome?_eq_none_iff,
    unresolved?_system_eq_some_iff, unresolved?_system_eq_none_iff,
    unresolved?_connection_eq_some_iff, unresolved?_connection_eq_none_iff]
  constructor
  · rintro (⟨before, s, after, hsplit, hs, hbefore⟩ | ⟨hsystems, before, c, after, hsplit, hc,
      hbefore⟩)
    · exact .system hsplit hbefore hs
    · exact .connection hsystems hsplit hbefore hc
  · rintro (⟨hsplit, hbefore, hs⟩ | ⟨hsystems, hsplit, hbefore, hc⟩)
    · exact Or.inl ⟨_, _, _, hsplit, hs, hbefore⟩
    · exact Or.inr ⟨hsystems, _, _, _, hsplit, hc, hbefore⟩

/-- A graph compiles exactly if all of its references resolve. -/
theorem exists_compile_eq_ok_iff : (∃ spec, g.compile = .ok spec) ↔ g.IsResolved := by
  simp [compile_eq, failOn_eq_ok_iff, unresolved?_references_eq_none_iff]

/-- A graph fails to compile for its first unresolved reference, and for nothing else.
-/
theorem compile_eq_error_iff {e : CompileError} :
    g.compile = .error e ↔ ∃ r, e = .unresolved r ∧ g.FirstUnresolved r := by
  simp only [compile_eq, failOn_eq_error_iff, unresolved?_references_eq_some_iff]

end Graph

end ZoneGuard
