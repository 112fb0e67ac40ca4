import Mathlib
import ZoneGuard.Proofs.Graph.Conflict
import ZoneGuard.Proofs.NumberedNames

/-!
# Names of connections without an id

A connection without an id draws a numbered name.  Ids that are given later in
the payload are compared with the name as they are spelled, ids registered
earlier by their identifiers.  So an id that is spelled unlike the name with its
identifier is not seen by the connections before it, and the name may be drawn
although it is in conflict with that id.  `NamesSuffice` says exactly when this
does not happen.
-/

namespace ZoneGuard

open Json (Value Record)

/-- The name that a connection without an id may draw. -/
abbrev connectionName (n : Nat) : String := numberedName "conn" n

theorem isIdentifier_conn : IsIdentifier "conn".toList := by decide

/-- Drawn names with different numbers have different identifiers. -/
theorem ofText_connectionName_injective :
    Function.Injective fun n => Identifier.ofText (connectionName n) :=
  ofText_numberedName_injective isIdentifier_conn

/-- No given id has the identifier of the name. -/
def IsUnclaimed (explicit : List String) (n : Nat) : Prop :=
  ∀ raw ∈ explicit, Identifier.ofText raw ≠ Identifier.ofText (connectionName n)

instance (explicit : List String) : DecidablePred (IsUnclaimed explicit) := fun n =>
  inferInstanceAs (Decidable
    (∀ raw ∈ explicit, Identifier.ofText raw ≠ Identifier.ofText (connectionName n)))

/-- Every given id that is spelled unlike the name with its identifier has
before it at most as many connections without an id as there are smaller
numbers whose names no given id claims. -/
def NamesSuffice (ids : List (Option String)) : Prop :=
  ∀ j raw n, ids[j]? = some (some raw) →
    Identifier.ofText raw = Identifier.ofText (connectionName n) → raw ≠ connectionName n →
    (ids.take j).countP (·.isNone) ≤
      ((List.range n).filter fun m => IsUnclaimed ids.reduceOption m).length

namespace Graph

/-- The ids of the connections as they were given or drawn. -/
def connectionRaws (g : Graph) : List String := g.connections.map (·.id.raw)

theorem Consistent.identifiers_connection {g : Graph} (h : g.Consistent) :
    g.identifiers .connection = g.connectionRaws.map Identifier.ofText := by
  have hnormalized := (h.mirrors .connection).normalized
  rw [identifiers_eq_map, entityIds, connectionRaws, List.map_map, List.map_map]
  refine List.map_congr_left fun c hc => hnormalized _ ?_
  exact List.mem_map_of_mem hc

/-- Ids with the same identifier are the same id. -/
theorem Consistent.eq_of_mem_connectionRaws {g : Graph} (h : g.Consistent) {raw raw' : String}
    (hmem : raw ∈ g.connectionRaws) (hmem' : raw' ∈ g.connectionRaws)
    (heq : Identifier.ofText raw = Identifier.ofText raw') : raw = raw' := by
  have hnodup : (g.connectionRaws.map Identifier.ofText).Nodup := by
    rw [← h.identifiers_connection, identifiers_eq_map]
    exact (h.mirrors .connection).nodup_safe
  exact List.inj_on_of_nodup_map hnodup hmem hmem' heq

/-- An id of a connection is refused if its identifier is in use. -/
theorem Consistent.exists_of_register_eq_error {g : Graph} (h : g.Consistent) {raw : String}
    {index : Nat} {e : GraphError}
    (hregister : register .connection g.ids.connections raw index = .error e) :
    ∃ existing ∈ g.connectionRaws, Identifier.ofText existing = Identifier.ofText raw ∧
      (raw = existing ∧ e = .duplicateId .connection raw ∨
        e = .idCollision .connection existing raw (Identifier.ofText raw)) := by
  have hmirrors := h.mirrors .connection
  have hraws (raw : String) (safe : Identifier) :
      (⟨raw, safe⟩ : EntityId) ∈ g.entityIds .connection → raw ∈ g.connectionRaws := by
    intro hmem
    obtain ⟨c, hc, heq⟩ := List.mem_map.1 hmem
    exact List.mem_map.2 ⟨c, hc, by rw [heq]⟩
  rcases register_eq_error_iff.1 hregister with ⟨hknown, rfl⟩ | ⟨-, existing, hexisting, rfl⟩
  · obtain ⟨safe, hsafe⟩ := Option.ne_none_iff_exists'.1 hknown
    exact ⟨raw, hraws _ _ ((hmirrors.safe_iff raw safe).1 hsafe), rfl, Or.inl ⟨rfl, rfl⟩⟩
  · have hentry := (hmirrors.raw_iff _ existing).1 hexisting
    exact ⟨existing, hraws _ _ hentry, (hmirrors.normalized _ hentry).symm, Or.inr rfl⟩

/-! ## What has been drawn -/

/-- The numbers in `drawn` are those drawn for the records in `done`, and the
counter has come to `next`. -/
structure Drawn (explicit : List String) (g : Graph) (next : Nat) (done : List Record)
    (drawn : List Nat) : Prop where
  consistent : g.Consistent
  length : g.connections.length = done.length
  mem_iff : ∀ raw, raw ∈ g.connectionRaws ↔
    raw ∈ done.filterMap Record.id? ∨ ∃ n ∈ drawn, raw = connectionName n
  nodup : drawn.Nodup
  count : drawn.length = done.countP (·.id?.isNone)
  notMem : ∀ n ∈ drawn, connectionName n ∉ explicit
  lt_next : ∀ n ∈ drawn, n < next
  /-- A number that has been passed over belongs to a name in use. -/
  passed : ∀ n < next, connectionName n ∈ explicit ∨
    Identifier.ofText (connectionName n) ∈ g.connectionRaws.map Identifier.ofText

theorem drawn_nil (explicit : List String) {g : Graph} (h : g.Consistent)
    (hempty : g.connections = []) : Drawn explicit g 0 [] [] where
  consistent := h
  length := by simp [hempty]
  mem_iff := by simp [connectionRaws, hempty]
  nodup := List.nodup_nil
  count := rfl
  notMem := by simp
  lt_next := by simp
  passed := by simp

/-- What a draw passes over: ids given anywhere, and identifiers in use. -/
theorem Consistent.isTaken_iff {g : Graph} (h : g.Consistent) (explicit : List String)
    (name : String) : (explicit.contains name || g.ids.connections.isTaken name) = true ↔
      name ∈ explicit ∨ Identifier.ofText name ∈ g.connectionRaws.map Identifier.ofText := by
  rw [Bool.or_eq_true, List.contains_iff_mem, ← h.identifiers_connection, identifiers_eq_map]
  exact or_congr_right ((h.mirrors .connection).isTaken_eq_true_iff name)

/-- A connection without an id draws the least number whose name is neither
given somewhere nor taken in the table. -/
theorem Consistent.exists_connectionId_eq {g : Graph} (h : g.Consistent)
    (explicit : List String) (next : Nat) {r : Record} (hid : r.id? = none) :
    ∃ n, g.connectionId explicit next r = (connectionName n, n + 1) ∧
      IsLeast (freeNumbers "conn"
        (fun name => explicit.contains name || g.ids.connections.isTaken name) next) n := by
  have hsize : (explicit.map Identifier.ofText ++ g.connectionRaws.map Identifier.ofText).length
      ≤ explicit.length + g.ids.connections.size := by
    have hlength : g.ids.connections.size = g.connections.length :=
      (h.mirrors .connection).size_eq.trans (g.length_entityIds .connection)
    simp [connectionRaws, hlength]
  rw [connectionId, hid]
  exact allocateName_spec isIdentifier_conn
    (fun name hname => List.mem_append.2
      (((h.isTaken_iff explicit name).1 hname).imp_left List.mem_map_of_mem)) hsize next

/-- The attempts that a connection is given for its draw are enough: the search
without a bound finds the same name. -/
theorem Consistent.draws_connectionId {g : Graph} (h : g.Consistent) (explicit : List String)
    (next : Nat) {r : Record} (hid : r.id? = none) :
    Draws "conn" (fun name => explicit.contains name || g.ids.connections.isTaken name) next
      (g.connectionId explicit next r) := by
  obtain ⟨n, hdrawn, hleast⟩ := h.exists_connectionId_eq explicit next hid
  rw [hdrawn]
  exact draws_of_isLeast hleast

/-- A connection without an id draws the first name that neither is given
somewhere nor has an identifier in use. -/
theorem Consistent.connectionId_of_none {g : Graph} (h : g.Consistent) (explicit : List String)
    (next : Nat) {r : Record} (hid : r.id? = none) :
    ∃ n, g.connectionId explicit next r = (connectionName n, n + 1) ∧ next ≤ n ∧
      connectionName n ∉ explicit ∧
      Identifier.ofText (connectionName n) ∉ g.connectionRaws.map Identifier.ofText ∧
      ∀ m, next ≤ m → m < n → connectionName m ∈ explicit ∨
        Identifier.ofText (connectionName m) ∈ g.connectionRaws.map Identifier.ofText := by
  obtain ⟨n, hdrawn, hleast⟩ := h.exists_connectionId_eq explicit next hid
  obtain ⟨hnext, hfree, hbefore⟩ := isLeast_freeNumbers_iff.1 hleast
  have hfree' := mt (h.isTaken_iff explicit _).2 (Bool.eq_false_iff.1 hfree)
  rw [not_or] at hfree'
  exact ⟨n, hdrawn, hnext, hfree'.1, hfree'.2,
    fun m hm hlt => (h.isTaken_iff explicit _).1 (hbefore m hm hlt)⟩

/-- The id of an added connection comes last. -/
theorem Consistent.connectionRaws_of_addConnection {g g' : Graph} (h : g.Consistent)
    {explicit : List String} {next next' index : Nat} {r : Record}
    (hadd : Graph.addConnection explicit (g, next) index r = .ok (g', next')) :
    ∃ raw, g.connectionId explicit next r = (raw, next') ∧
      Identifier.ofText raw ∉ g.connectionRaws.map Identifier.ofText ∧
      g'.connectionRaws = g.connectionRaws ++ [raw] := by
  obtain ⟨raw, safe, table, source, target, carries, g₂, hid, hinsert, -, -, hcarries, rfl⟩ :=
    addConnection_eq_ok_iff.1 hadd
  obtain ⟨added, dataTable, rfl, -⟩ :=
    referToAll_eq_ok (g := g.withConnectionTable table) (h.mirrors .data) hcarries
  obtain ⟨-, hfree, rfl, -⟩ := IdTable.insert_eq_ok_iff.1 hinsert
  refine ⟨raw, hid, ?_, ?_⟩
  · rw [← h.identifiers_connection, identifiers_eq_map]
    exact (h.mirrors .connection).safe_notMem hfree
  · simp [connectionRaws, withData, withConnectionTable, Connection.ofRecord]

namespace Drawn

variable {explicit : List String} {g : Graph} {next : Nat} {done : List Record}
  {drawn : List Nat}

/-- Each added connection keeps the account of what has been drawn. -/
theorem addConnection (h : Drawn explicit g next done drawn) {r : Record} {g' : Graph}
    {next' : Nat}
    (hadd : Graph.addConnection explicit (g, next) done.length r = .ok (g', next')) :
    ∃ drawn', Drawn explicit g' next' (done ++ [r]) drawn' := by
  have hconsistent := h.consistent.addConnection h.length.symm hadd
  have hlength := h.consistent.connections_of_addConnection hadd
  obtain ⟨raw, hid, -, hraws⟩ := h.consistent.connectionRaws_of_addConnection hadd
  cases hgiven : r.id? with
  | some raw' =>
      simp only [connectionId, hgiven, Prod.mk.injEq] at hid
      obtain ⟨rfl, rfl⟩ := hid
      refine ⟨drawn, hconsistent, by simp [hlength, h.length], ?_, h.nodup,
        by simp [h.count, hgiven], h.notMem, h.lt_next, ?_⟩
      · intro raw
        simp only [hraws, List.mem_append, h.mem_iff, List.filterMap_append, List.filterMap_cons,
          hgiven, List.filterMap_nil, or_right_comm]
      · intro n hn
        rw [hraws, List.map_append, List.mem_append, ← or_assoc]
        exact Or.inl (h.passed n hn)
  | none =>
      obtain ⟨n, hname, hnext, hnotMem, -, hbefore⟩ :=
        h.consistent.connectionId_of_none explicit next hgiven
      simp only [hname, Prod.mk.injEq] at hid
      obtain ⟨rfl, rfl⟩ := hid
      refine ⟨n :: drawn, hconsistent, by simp [hlength, h.length], ?_, ?_,
        by simp [h.count, hgiven], ?_, ?_, ?_⟩
      · intro raw
        simp only [hraws, List.mem_append, h.mem_iff, List.filterMap_append, List.filterMap_cons,
          hgiven, List.filterMap_nil, List.append_nil, List.mem_singleton,
          List.exists_mem_cons_iff]
        rw [or_assoc, or_comm (a := raw = connectionName n)]
      · refine List.nodup_cons.2 ⟨fun hn => ?_, h.nodup⟩
        have := h.lt_next n hn
        omega
      · intro m hm
        rcases List.mem_cons.1 hm with rfl | hm
        · exact hnotMem
        · exact h.notMem m hm
      · intro m hm
        rcases List.mem_cons.1 hm with rfl | hm
        · omega
        · have := h.lt_next m hm
          omega
      · intro m hm
        rw [hraws, List.map_append, List.mem_append, ← or_assoc]
        rcases Nat.lt_trichotomy m n with hlt | rfl | hgt
        · left
          rcases Nat.lt_or_ge m next with hpassed | hge
          · exact h.passed m hpassed
          · exact hbefore m hge hlt
        · right
          simp
        · omega

/-- Numbers below a drawn one whose names no given id claims have been drawn as
well. -/
theorem mem_of_isUnclaimed (h : Drawn explicit g next done drawn)
    (hdone : done.filterMap Record.id? ⊆ explicit) {m n : Nat} (hn : n ∈ drawn) (hm : m < n)
    (hunclaimed : IsUnclaimed explicit m) : m ∈ drawn := by
  have hlt := h.lt_next n hn
  rcases h.passed m (by omega) with hmem | hmem
  · exact absurd rfl (hunclaimed _ hmem)
  · obtain ⟨raw, hraw, heq⟩ := List.mem_map.1 hmem
    rcases (h.mem_iff raw).1 hraw with hgiven | ⟨k, hk, rfl⟩
    · exact absurd heq (hunclaimed raw (hdone hgiven))
    · rwa [← ofText_connectionName_injective heq]

/-- A record whose id is in conflict gives an id that is spelled unlike the
drawn name with its identifier. -/
theorem conflict (h : Drawn explicit g next done drawn) {r : Record} {rest : List Record}
    (hexplicit : explicit = (done ++ r :: rest).filterMap Record.id?)
    (hdistinct : (explicit.map Identifier.ofText).Nodup) {e : GraphError}
    (hregister : register .connection g.ids.connections (g.connectionId explicit next r).1
      done.length = .error e) :
    ∃ raw, ∃ n ∈ drawn, r.id? = some raw ∧
      Identifier.ofText raw = Identifier.ofText (connectionName n) ∧ raw ≠ connectionName n ∧
      e = .idCollision .connection (connectionName n) raw (Identifier.ofText raw) := by
  obtain ⟨existing, hmem, hnormal, herror⟩ := h.consistent.exists_of_register_eq_error hregister
  cases hgiven : r.id? with
  | none =>
      obtain ⟨n, hname, -, -, hfree, -⟩ := h.consistent.connectionId_of_none explicit next hgiven
      rw [hname] at hnormal
      exact absurd (List.mem_map.2 ⟨existing, hmem, hnormal⟩) hfree
  | some raw =>
      have hid : (g.connectionId explicit next r).1 = raw := by simp [connectionId, hgiven]
      rw [hid] at hnormal herror
      rw [List.filterMap_append, List.filterMap_cons_some hgiven] at hexplicit
      rcases (h.mem_iff existing).1 hmem with hbefore | ⟨n, hn, rfl⟩
      · -- Two given ids would have the same identifier.
        rw [hexplicit, List.map_append, List.map_cons, List.nodup_append] at hdistinct
        exact absurd hnormal
          (hdistinct.2.2 _ (List.mem_map_of_mem hbefore) _ List.mem_cons_self)
      · have hne : raw ≠ connectionName n := by
          rintro rfl
          exact h.notMem n hn (by simp [hexplicit])
        rcases herror with ⟨rfl, -⟩ | rfl
        · exact absurd rfl hne
        · exact ⟨raw, n, hn, rfl, hnormal.symm, hne, rfl⟩

end Drawn

/-! ## When names suffice -/

theorem reduceOption_map_id? (rs : List Record) :
    (rs.map Record.id?).reduceOption = rs.filterMap Record.id? := by
  rw [List.reduceOption, List.filterMap_map]
  rfl

/-- The names of all connections, the drawn ones with their numbers. -/
theorem exists_drawn_of_addEach {explicit : List String} {g g' : Graph} {next : Nat}
    {rs : List Record} (hconsistent : g.Consistent) (hempty : g.connections = [])
    (h : addEach (addConnection explicit) (g, 0) 0 rs = .ok (g', next)) :
    ∃ drawn, Drawn explicit g' next rs drawn :=
  addEach_invariant (P := fun state done => ∃ drawn, Drawn explicit state.1 state.2 done drawn)
    (fun _ _ _ _ ⟨_, hdrawn⟩ hadd => hdrawn.addConnection hadd)
    ⟨[], drawn_nil explicit hconsistent hempty⟩ h

/-- If ids are given with pairwise distinct identifiers, a conflict shows that
the names do not suffice. -/
theorem not_namesSuffice_of_conflict {p : Payload} {e : GraphError}
    (hdistinct : ((p.connections.filterMap Record.id?).map Identifier.ofText).Nodup)
    (h : ofPayload p = .error e) (hconflict : e.conflictKind? = some .connection) :
    (∃ first second safe, e = .idCollision .connection first second safe) ∧
      ¬ NamesSuffice (p.connections.map Record.id?) := by
  obtain ⟨g₀, hconsistent, hempty, hloop⟩ := connections_of_conflict h hconflict
  obtain ⟨⟨g, next⟩, done, r, rest, hsplit, ⟨drawn, hdrawn⟩, hrefused⟩ := addEach_eq_error
    (P := fun state done =>
      ∃ drawn, Drawn (p.connections.filterMap Record.id?) state.1 state.2 done drawn)
    (fun _ _ _ _ ⟨_, hdrawn⟩ hadd => hdrawn.addConnection hadd)
    ⟨[], drawn_nil _ hconsistent hempty⟩ hloop
  obtain ⟨raw, n, hn, hid, hnormal, hne, rfl⟩ := hdrawn.conflict (by rw [hsplit]) hdistinct
    (register_of_addConnection hrefused hconflict)
  refine ⟨⟨_, _, _, rfl⟩, fun hsuffice => ?_⟩
  have hcount := hsuffice done.length raw n (by simp [hsplit, hid]) hnormal hne
  rw [reduceOption_map_id?] at hcount
  have hbefore : ((p.connections.map Record.id?).take done.length).countP (·.isNone) =
      drawn.length := by
    rw [hdrawn.count, hsplit, List.map_append, List.take_left' (by simp), List.countP_map]
    rfl
  -- The drawn number and all smaller unclaimed ones have been drawn.
  have hsubset : n :: (List.range n).filter
      (fun m => IsUnclaimed (p.connections.filterMap Record.id?) m) ⊆ drawn := by
    intro m hm
    rcases List.mem_cons.1 hm with rfl | hm
    · exact hn
    · obtain ⟨hlt, hunclaimed⟩ := List.mem_filter.1 hm
      refine hdrawn.mem_of_isUnclaimed ?_ hn (List.mem_range.1 hlt) (of_decide_eq_true hunclaimed)
      rw [hsplit, List.filterMap_append]
      exact List.subset_append_left _ _
  have hnodup : (n :: (List.range n).filter
      (fun m => IsUnclaimed (p.connections.filterMap Record.id?) m)).Nodup :=
    List.nodup_cons.2 ⟨by simp, List.nodup_range.filter _⟩
  have hle := (hnodup.subperm hsubset).length_le
  rw [List.length_cons] at hle
  omega

/-- If all connections can be added, all drawn names are unclaimed and come
before the name that an id given later is in conflict with. -/
theorem countP_le_of_addEach {g₀ g : Graph} {next : Nat} {done rest : List Record} {r : Record}
    {raw : String} {n : Nat} (hconsistent : g₀.Consistent) (hempty : g₀.connections = [])
    (hloop : addEach (addConnection ((done ++ r :: rest).filterMap Record.id?)) (g₀, 0) 0
      (done ++ r :: rest) = .ok (g, next))
    (hid : r.id? = some raw)
    (hnormal : Identifier.ofText raw = Identifier.ofText (connectionName n))
    (hne : raw ≠ connectionName n) :
    done.countP (·.id?.isNone) ≤ ((List.range n).filter fun m =>
      IsUnclaimed ((done ++ r :: rest).filterMap Record.id?) m).length := by
  have hgiven : raw ∈ (done ++ r :: rest).filterMap Record.id? := by simp [hid]
  generalize hexplicit : (done ++ r :: rest).filterMap Record.id? = explicit at hloop hgiven ⊢
  obtain ⟨⟨g₁, next₁⟩, hbefore, hbehind⟩ := addEach_append_eq_ok_iff.1 hloop
  rw [Nat.zero_add] at hbehind
  obtain ⟨drawn, hdrawn⟩ := exists_drawn_of_addEach hconsistent hempty hbefore
  obtain ⟨⟨drawn', hfinal⟩, hkept⟩ :
      (∃ drawn', Drawn explicit g next (done ++ r :: rest) drawn') ∧
        g₁.connectionRaws ⊆ g.connectionRaws := by
    have hrun := @addEach_run _ (addConnection explicit)
      (fun state done => (∃ drawn, Drawn explicit state.1 state.2 done drawn) ∧
        g₁.connectionRaws ⊆ state.1.connectionRaws)
      (by
        rintro ⟨g, next⟩ done r ⟨g', next'⟩ ⟨⟨drawn, hdrawn⟩, hkept⟩ hadd
        obtain ⟨raw, -, -, hraws⟩ := hdrawn.consistent.connectionRaws_of_addConnection hadd
        refine ⟨hdrawn.addConnection hadd, ?_⟩
        rw [hraws]
        exact List.Subset.trans hkept (List.subset_append_left _ _))
      (g₁, next₁) done (r :: rest) ⟨⟨drawn, hdrawn⟩, List.Subset.refl _⟩
    rwa [hbehind] at hrun
  have hexplicitMem : explicit ⊆ g.connectionRaws := by
    intro raw' hraw'
    exact (hfinal.mem_iff raw').2 (Or.inl (hexplicit ▸ hraw'))
  have hunclaimed : ∀ m ∈ drawn, IsUnclaimed explicit m := by
    intro m hm raw' hraw' heq
    have hname : connectionName m ∈ g₁.connectionRaws :=
      (hdrawn.mem_iff _).2 (Or.inr ⟨m, hm, rfl⟩)
    have hsame := hfinal.consistent.eq_of_mem_connectionRaws (hexplicitMem hraw') (hkept hname) heq
    exact hdrawn.notMem m hm (hsame ▸ hraw')
  have hnext : next₁ ≤ n := by
    by_contra hlt
    rcases hdrawn.passed n (by omega) with hmem | hmem
    · exact hne (hfinal.consistent.eq_of_mem_connectionRaws (hexplicitMem hgiven)
        (hexplicitMem hmem) hnormal)
    · obtain ⟨⟨g₂, next₂⟩, hadd, -⟩ := addEach_cons_eq_ok_iff.1 hbehind
      obtain ⟨raw', hid', hfree, -⟩ := hdrawn.consistent.connectionRaws_of_addConnection hadd
      have hraw : raw = raw' := by
        rw [connectionId, hid] at hid'
        exact congrArg Prod.fst hid'
      rw [← hraw, hnormal] at hfree
      exact hfree hmem
  rw [← hdrawn.count]
  refine (hdrawn.nodup.subperm fun m hm => ?_).length_le
  have hlt := hdrawn.lt_next m hm
  exact List.mem_filter.2 ⟨List.mem_range.2 (by omega), decide_eq_true (hunclaimed m hm)⟩

/-- A payload that is accepted has names that suffice. -/
theorem namesSuffice_of_ofPayload {p : Payload} {g : Graph} (h : ofPayload p = .ok g) :
    NamesSuffice (p.connections.map Record.id?) := by
  obtain ⟨g₁, g₂, g₃, next, hlocations, hdata, hsystems, hloop⟩ := ofPayload_eq_ok_iff.1 h
  obtain ⟨hconsistent, hempty⟩ := consistent_before_connections hlocations hdata hsystems
  intro j raw n hj hnormal hne
  rw [reduceOption_map_id?]
  obtain ⟨r, hr, hid⟩ : ∃ r, p.connections[j]? = some r ∧ r.id? = some raw := by
    simpa [List.getElem?_map] using hj
  obtain ⟨hlt, hget⟩ := List.getElem?_eq_some_iff.1 hr
  have hsplit : p.connections.take j ++ r :: p.connections.drop (j + 1) = p.connections := by
    rw [← hget, List.getElem_cons_drop, List.take_append_drop]
  rw [← hsplit] at hloop
  have hle := countP_le_of_addEach hconsistent hempty hloop hid hnormal hne
  rw [hsplit] at hle
  rw [← List.map_take, List.countP_map]
  exact hle

/-! ## A payload for any ids -/

/-- The record of a connection of the system `s` with itself. -/
def selfRecord (id? : Option String) : Record :=
  ⟨("from", .string "s") :: (id?.toList.map fun raw => ("id", .string raw)) ++
    [("to", .string "s")]⟩

/-- The records of a payload with one system, all of whose connections are of
the system with itself. -/
def selfRecords (ids : List (Option String)) : Payload where
  locations := [⟨[("id", .string "z")]⟩]
  data := []
  systems := [⟨[("id", .string "s"), ("location", .string "z")]⟩]
  connections := ids.map selfRecord

/-- A payload with one system, all of whose connections are of the system with
itself. -/
def selfPayload (ids : List (Option String)) : Value :=
  .object
    [("connections", .array (ids.map fun id? => .object (selfRecord id?).values)),
     ("locations", .array [.object [("id", .string "z")]]),
     ("systems", .array [.object [("id", .string "s"), ("location", .string "z")]])]

theorem read_selfRecord (id? : Option String) :
    connectionRecord.read (.object (selfRecord id?).values) = .ok (selfRecord id?) := by
  cases id? with
  | none => rfl
  | some raw => rfl

theorem id?_selfRecord (id? : Option String) : (selfRecord id?).id? = id? := by
  cases id? with
  | none => rfl
  | some raw => rfl

theorem readItems_selfRecord (ids : List (Option String)) :
    connectionRecord.readItems (ids.map fun id? => .object (selfRecord id?).values) =
      .ok (ids.map selfRecord) := by
  induction ids with
  | nil => rfl
  | cons id? ids ih =>
      rw [List.map_cons, Json.RecordType.readItems, read_selfRecord, ih]
      rfl

theorem read_selfPayload (ids : List (Option String)) :
    Payload.read (selfPayload ids) = .ok (selfRecords ids) := by
  have hread : connectionRecord.readList
      (some (.array (ids.map fun id? => .object (selfRecord id?).values))) =
        .ok (ids.map selfRecord) := readItems_selfRecord ids
  have hconnections : List.lookup "connections"
      [("connections", Value.array (ids.map fun id? => .object (selfRecord id?).values)),
       ("locations", .array [.object [("id", .string "z")]]),
       ("systems", .array [.object [("id", .string "s"), ("location", .string "z")]])] =
        some (.array (ids.map fun id? => .object (selfRecord id?).values)) := rfl
  unfold Payload.read selfPayload
  simp only [hconnections, hread]
  rfl

theorem map_id?_selfRecords (ids : List (Option String)) :
    (selfRecords ids).connections.map Record.id? = ids := by
  simp [selfRecords, Function.comp_def, id?_selfRecord]

/-- Nothing but its id can be wrong with a connection of a registered system
with itself. -/
theorem conflictKind?_of_selfRecord {explicit : List String} {g : Graph} {next index : Nat}
    {id? : Option String} {s : Identifier} {e : GraphError}
    (hs : g.ids.systems.safe? "s" = some s)
    (h : addConnection explicit (g, next) index (selfRecord id?) = .error e) :
    e.conflictKind? = some .connection := by
  have hsource : (((selfRecord id?).field? "from").bind idText?).getD "" = "s" := by
    cases id? <;> rfl
  have htarget : (((selfRecord id?).field? "to").bind idText?).getD "" = "s" := by
    cases id? <;> rfl
  have hcarries : referenceTexts ((selfRecord id?).field? "carries") = [] := by
    cases id? <;> rfl
  rcases addConnection_eq_error h with hregister | ⟨field, hfield, hend⟩ | ⟨table, hrefused⟩
  · exact conflictKind?_of_register hregister
  · have hok : g.endpoint (g.connectionId explicit next (selfRecord id?)).1 field
        (selfRecord id?) = .ok s := by
      rw [endpoint_eq_ok_iff]
      cases field with
      | location => exact absurd rfl hfield
      | source => rwa [ReferenceField.name, hsource]
      | target => rwa [ReferenceField.name, htarget]
    rw [hok] at hend
    cases hend
  · rw [hcarries] at hrefused
    cases hrefused

/-- Adding a connection leaves the systems as they are. -/
theorem Consistent.systemTable_of_addConnection {g g' : Graph} (h : g.Consistent)
    {explicit : List String} {next next' index : Nat} {r : Record}
    (hadd : Graph.addConnection explicit (g, next) index r = .ok (g', next')) :
    g'.ids.systems = g.ids.systems := by
  obtain ⟨raw, safe, table, source, target, carries, g₂, -, -, -, -, hcarries, rfl⟩ :=
    addConnection_eq_ok_iff.1 hadd
  obtain ⟨added, dataTable, rfl, -⟩ :=
    referToAll_eq_ok (g := g.withConnectionTable table) (h.mirrors .data) hcarries
  rfl

/-- Connections of one system to itself only fail over their ids. -/
theorem conflictKind?_of_selfRecords {ids : List (Option String)} {e : GraphError}
    (h : ofPayload (selfRecords ids) = .error e) : e.conflictKind? = some .connection := by
  obtain ⟨g₁, g₂, g₃, hlocations, hdata, hsystems, hs⟩ : ∃ g₁ g₂ g₃ : Graph,
      addEach addLocation {} 0 (selfRecords ids).locations = .ok g₁ ∧
      addEach addData g₁ 0 (selfRecords ids).data = .ok g₂ ∧
      addEach addSystem g₂ 0 (selfRecords ids).systems = .ok g₃ ∧
      g₃.ids.systems.safe? "s" = some (Identifier.ofText "s") :=
    ⟨_, _, _, rfl, rfl, rfl, rfl⟩
  obtain ⟨hconsistent, hempty⟩ := consistent_before_connections hlocations hdata hsystems
  have hloop : addEach (addConnection ((selfRecords ids).connections.filterMap Record.id?))
      (g₃, 0) 0 (selfRecords ids).connections = .error e := by
    simp only [ofPayload, hlocations, hdata, hsystems, bind, Except.bind] at h
    split at h
    · next e' hrefused =>
      cases h
      exact hrefused
    · cases h
  obtain ⟨⟨g, next⟩, done, r, rest, hsplit, ⟨hg, hlength, htable⟩, hrefused⟩ :=
    addEach_eq_error
      (P := fun state done => state.1.Consistent ∧ state.1.connections.length = done.length ∧
        state.1.ids.systems = g₃.ids.systems)
      (by
        rintro ⟨g, next⟩ done r ⟨g', next'⟩ ⟨hg, hlength, htable⟩ hadd
        exact ⟨hg.addConnection hlength.symm hadd,
          by simp [hg.connections_of_addConnection hadd, hlength],
          (hg.systemTable_of_addConnection hadd).trans htable⟩)
      ⟨hconsistent, by simp [hempty], rfl⟩ hloop
  have hr : r ∈ ids.map selfRecord := by
    change r ∈ (selfRecords ids).connections
    simp [hsplit]
  obtain ⟨id?, -, rfl⟩ := List.mem_map.1 hr
  exact conflictKind?_of_selfRecord (htable ▸ hs) hrefused

/-- When ids are given with pairwise distinct identifiers, no id of a connection
is ever a duplicate.  Collisions are ruled out exactly if the names suffice for
the connections without an id: then no payload with these ids has one, and
otherwise some payload has. -/
theorem connection_conflicts_iff {ids : List (Option String)}
    (hdistinct : (ids.reduceOption.map Identifier.ofText).Nodup) :
    (∀ v p raw, Payload.read v = .ok p → p.connections.map Record.id? = ids →
      ofJson v ≠ .error (.duplicateId .connection raw)) ∧
    ((∀ v p first second safe, Payload.read v = .ok p → p.connections.map Record.id? = ids →
      ofJson v ≠ .error (.idCollision .connection first second safe)) ↔ NamesSuffice ids) := by
  have hconflict {v : Value} {p : Payload} {e : GraphError} (hread : Payload.read v = .ok p)
      (hids : p.connections.map Record.id? = ids) (h : ofJson v = .error e)
      (hkind : e.conflictKind? = some .connection) :
      (∃ first second safe, e = .idCollision .connection first second safe) ∧
        ¬ NamesSuffice ids := by
    rw [← hids, reduceOption_map_id?] at hdistinct
    rw [← hids]
    refine not_namesSuffice_of_conflict hdistinct ?_ hkind
    simpa [ofJson, hread] using h
  refine ⟨fun v p raw hread hids h => ?_, fun hnever => ?_, fun hsuffice v p first second safe
    hread hids h => ?_⟩
  · obtain ⟨⟨first, second, safe, heq⟩, -⟩ := hconflict hread hids h rfl
    cases heq
  · have hread := read_selfPayload ids
    have hids := map_id?_selfRecords ids
    cases hpayload : ofPayload (selfRecords ids) with
    | ok g => exact hids ▸ namesSuffice_of_ofPayload hpayload
    | error e =>
        have hjson : ofJson (selfPayload ids) = .error e := by
          simp [ofJson, hread, hpayload]
        obtain ⟨⟨first, second, safe, rfl⟩, -⟩ :=
          hconflict hread hids hjson (conflictKind?_of_selfRecords hpayload)
        exact absurd hjson (hnever _ _ first second safe hread hids)
  · exact (hconflict hread hids h rfl).2 hsuffice

/-- One unnamed connection before the id `conn-1` draws `conn_0`. -/
theorem connection_conflicts_iff_dashed :
    ([none, some "conn-1"].reduceOption.map Identifier.ofText).Nodup ∧
      ∀ v p first second safe, Payload.read v = .ok p →
        p.connections.map Record.id? = [none, some "conn-1"] →
        ofJson v ≠ .error (.idCollision .connection first second safe) := by
  have hdistinct : ([none, some "conn-1"].reduceOption.map Identifier.ofText).Nodup := by
    decide +kernel
  have hsuffice : NamesSuffice [none, some "conn-1"] := by
    have haccepted : (ofPayload (selfRecords [none, some "conn-1"])).toOption.isSome = true := by
      decide +kernel
    obtain ⟨g, hg⟩ := Option.isSome_iff_exists.1 haccepted
    have hids := map_id?_selfRecords [none, some "conn-1"]
    exact hids ▸ namesSuffice_of_ofPayload (except_toOption_eq_some_iff.1 hg)
  exact ⟨hdistinct, (connection_conflicts_iff hdistinct).2.2 hsuffice⟩

/-- Before the id `conn-0` the same name is drawn, and the given id is refused. -/
theorem idCollision_of_dashed_name :
    ([none, some "conn-0"].reduceOption.map Identifier.ofText).Nodup ∧
      Payload.read (selfPayload [none, some "conn-0"]) =
        .ok (selfRecords [none, some "conn-0"]) ∧
      (selfRecords [none, some "conn-0"]).connections.map Record.id? = [none, some "conn-0"] ∧
      ofJson (selfPayload [none, some "conn-0"]) =
        .error (.idCollision .connection "conn_0" "conn-0" (Identifier.ofText "conn-0")) :=
  ⟨by decide +kernel, read_selfPayload _, map_id?_selfRecords _, rfl⟩

end Graph

end ZoneGuard
