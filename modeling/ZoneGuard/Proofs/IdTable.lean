import Mathlib
import ZoneGuard.Graph.Basic
import ZoneGuard.Proofs.Identifier

/-!
# Tables that mirror a list of ids

A table is consulted in three directions: from an id to its identifier, from an
identifier to the id, and from an identifier to a position.  `Mirrors` says
that all three agree with one list of ids, and that the list holds everything
the table knows.  Registering an id at the end of the list keeps it so.
-/

namespace ZoneGuard

namespace IdTable

/-! ## What an insertion does -/

@[simp]
theorem safe?_empty (raw : String) : (∅ : IdTable).safe? raw = none := rfl

@[simp]
theorem raw?_empty (safe : Identifier) : (∅ : IdTable).raw? safe = none := rfl

@[simp]
theorem index?_empty (safe : Identifier) : (∅ : IdTable).index? safe = none := rfl

theorem safe?_cons (entry : IdEntry) (entries : List IdEntry) (raw : String) :
    safe? ⟨entry :: entries⟩ raw =
      if entry.raw = raw then some entry.id else safe? ⟨entries⟩ raw := by
  by_cases h : entry.raw = raw <;> simp [safe?, ofRaw?, h]

theorem raw?_cons (entry : IdEntry) (entries : List IdEntry) (safe : Identifier) :
    raw? ⟨entry :: entries⟩ safe =
      if entry.id = safe then some entry.raw else raw? ⟨entries⟩ safe := by
  by_cases h : entry.id = safe <;> simp [raw?, entryOf?, h]

theorem index?_cons (entry : IdEntry) (entries : List IdEntry) (safe : Identifier) :
    index? ⟨entry :: entries⟩ safe =
      if entry.id = safe then some entry.index else index? ⟨entries⟩ safe := by
  by_cases h : entry.id = safe <;> simp [index?, entryOf?, h]

theorem index?_eq_none_iff (t : IdTable) (safe : Identifier) :
    t.index? safe = none ↔ t.raw? safe = none := by
  simp [index?, raw?]

/-- An id can be registered exactly if neither it nor its identifier is in the
table, and then it becomes the latest entry. -/
theorem insert_eq_ok_iff {t t' : IdTable} {raw : String} {index : Nat} {safe : Identifier} :
    t.insert raw index = .ok (safe, t') ↔
      t.safe? raw = none ∧ t.raw? safe = none ∧ safe = Identifier.ofText raw ∧
        t' = ⟨⟨raw, safe, index⟩ :: t.entries⟩ := by
  have hsafe : t.safe? raw = none ↔ (t.ofRaw? raw).isSome = false := by
    simp [safe?]
  unfold insert
  rw [hsafe]
  split
  · next hknown => simp [hknown]
  · next hknown =>
    have hknown' : (t.ofRaw? raw).isSome = false := by simpa using hknown
    simp only [hknown', true_and]
    split
    · next existing hexisting =>
      constructor
      · intro h
        cases h
      · rintro ⟨hfree, rfl, -⟩
        rw [hexisting] at hfree
        cases hfree
    · next hfree =>
      constructor
      · intro h
        cases h
        exact ⟨hfree, rfl, rfl⟩
      · rintro ⟨-, rfl, rfl⟩
        rfl

/-- An id is free exactly if neither it nor its identifier is registered. -/
theorem isTaken_eq_false_iff (t : IdTable) (raw : String) :
    t.isTaken raw = false ↔
      t.safe? raw = none ∧ t.raw? (Identifier.ofText raw) = none := by
  simp [isTaken, safe?, raw?]

/-! ## Mirroring -/

/-- The table knows exactly the ids of the list, each under its normal form
and at its position. -/
structure Mirrors (t : IdTable) (ids : List EntityId) : Prop where
  size_eq : t.size = ids.length
  normalized : ∀ e ∈ ids, e.safe = Identifier.ofText e.raw
  safe_iff : ∀ raw safe, t.safe? raw = some safe ↔ (⟨raw, safe⟩ : EntityId) ∈ ids
  raw_iff : ∀ safe raw, t.raw? safe = some raw ↔ (⟨raw, safe⟩ : EntityId) ∈ ids
  index_iff : ∀ safe i, t.index? safe = some i ↔ (ids.map (·.safe))[i]? = some safe

theorem mirrors_empty : (∅ : IdTable).Mirrors [] where
  size_eq := rfl
  normalized := by simp
  safe_iff := by simp
  raw_iff := by simp
  index_iff := by simp

namespace Mirrors

variable {t : IdTable} {ids : List EntityId}

/-- An identifier without an id is not in the list. -/
theorem safe_notMem (h : t.Mirrors ids) {safe : Identifier} (hfree : t.raw? safe = none) :
    safe ∉ ids.map (·.safe) := by
  intro hmem
  obtain ⟨e, he, rfl⟩ := List.mem_map.1 hmem
  have hknown := (h.raw_iff e.safe e.raw).2 he
  rw [hfree] at hknown
  cases hknown

/-- Registering an id at the end of the list keeps table and list aligned. -/
theorem insert (h : t.Mirrors ids) {t' : IdTable} {raw : String} {safe : Identifier}
    (hins : t.insert raw ids.length = .ok (safe, t')) :
    t'.Mirrors (ids ++ [⟨raw, safe⟩]) := by
  obtain ⟨hraw, hsafe, hnormal, rfl⟩ := insert_eq_ok_iff.1 hins
  have hnotMem := h.safe_notMem hsafe
  refine ⟨?_, ?_, ?_, ?_, ?_⟩
  · have hsize := h.size_eq
    simp only [size] at hsize
    simp [size, hsize]
  · intro e he
    rcases List.mem_append.1 he with he | he
    · exact h.normalized e he
    · rw [List.mem_singleton.1 he]
      exact hnormal
  · intro raw' safe'
    rw [safe?_cons, List.mem_append, List.mem_singleton, ← h.safe_iff]
    by_cases heq : raw = raw'
    · subst heq
      simp [hraw, eq_comm]
    · simp [heq, Ne.symm heq]
  · intro safe' raw'
    rw [raw?_cons, List.mem_append, List.mem_singleton, ← h.raw_iff]
    by_cases heq : safe = safe'
    · subst heq
      simp [hsafe, eq_comm]
    · simp [heq, Ne.symm heq]
  · intro safe' i
    rw [index?_cons, List.map_append, List.getElem?_append, List.length_map]
    by_cases hi : i < ids.length
    · -- an old position: the new identifier is none of the old ones
      rw [if_pos hi, ← h.index_iff]
      by_cases heq : safe = safe'
      · subst heq
        have hnone := (index?_eq_none_iff t safe).2 hsafe
        simp [hnone, Nat.ne_of_gt hi]
      · simp [heq]
    · rw [if_neg hi]
      by_cases heq : safe = safe'
      · subst heq
        simp only [if_true, Option.some.injEq, List.map_cons, List.map_nil]
        constructor
        · rintro rfl
          simp
        · intro hget
          have := (List.getElem?_eq_some_iff.1 hget).1
          simp at this
          omega
      · have hold : t.index? safe' ≠ some i := by
          rw [ne_eq, h.index_iff]
          intro hget
          exact hi (by simpa using (List.getElem?_eq_some_iff.1 hget).1)
        simp only [heq, if_false]
        constructor
        · intro hindex
          exact absurd hindex hold
        · intro hget
          have hmem := List.mem_of_getElem? hget
          simp only [List.map_cons, List.map_nil, List.mem_singleton] at hmem
          exact absurd hmem.symm heq

/-- The three views of the entry at a position. -/
theorem lookup_of_getElem? (h : t.Mirrors ids) {i : Nat} {e : EntityId}
    (he : ids[i]? = some e) :
    t.index? e.safe = some i ∧ t.raw? e.safe = some e.raw ∧ t.safe? e.raw = some e.safe := by
  have hmem : e ∈ ids := List.mem_of_getElem? he
  exact ⟨(h.index_iff e.safe i).2 (by simp [he]), (h.raw_iff e.safe e.raw).2 hmem,
    (h.safe_iff e.raw e.safe).2 hmem⟩

/-- Identifiers are pairwise distinct, since each is found at one position. -/
theorem nodup_safe (h : t.Mirrors ids) : (ids.map (·.safe)).Nodup := by
  rw [List.nodup_iff_getElem?_ne_getElem?]
  intro i j hij hj heq
  obtain ⟨safe, hsafe⟩ : ∃ safe, (ids.map (·.safe))[j]? = some safe :=
    ⟨_, List.getElem?_eq_getElem hj⟩
  have hindexi := (h.index_iff safe i).2 (heq.trans hsafe)
  have hindexj := (h.index_iff safe j).2 hsafe
  rw [hindexi] at hindexj
  exact Nat.ne_of_lt hij (Option.some.inj hindexj)

/-- Ids are pairwise distinct, since their normal forms are. -/
theorem nodup_raw (h : t.Mirrors ids) : (ids.map (·.raw)).Nodup := by
  have hmap : ids.map (·.safe) = (ids.map (·.raw)).map Identifier.ofText := by
    rw [List.map_map]
    exact List.map_congr_left h.normalized
  exact List.Nodup.of_map Identifier.ofText (hmap ▸ h.nodup_safe)

theorem mem_of_safe? (h : t.Mirrors ids) {raw : String} {safe : Identifier}
    (hsafe : t.safe? raw = some safe) : raw ∈ ids.map (·.raw) :=
  List.mem_map_of_mem (f := (·.raw)) ((h.safe_iff raw safe).1 hsafe)

/-- An id is registered under its own normal form. -/
theorem eq_ofText_of_safe? (h : t.Mirrors ids) {raw : String} {safe : Identifier}
    (hsafe : t.safe? raw = some safe) : safe = Identifier.ofText raw :=
  h.normalized _ ((h.safe_iff raw safe).1 hsafe)

/-- An id is unknown to the table exactly if it is not in the list. -/
theorem safe?_eq_none_iff (h : t.Mirrors ids) (raw : String) :
    t.safe? raw = none ↔ raw ∉ ids.map (·.raw) := by
  rw [Option.eq_none_iff_forall_ne_some]
  constructor
  · intro hnone hmem
    obtain ⟨e, he, rfl⟩ := List.mem_map.1 hmem
    exact hnone e.safe ((h.safe_iff e.raw e.safe).2 he)
  · intro hnotMem safe hsafe
    exact hnotMem (h.mem_of_safe? hsafe)

/-- A name is free for the table exactly if its normal form is no identifier
of the list. -/
theorem isTaken_eq_true_iff (h : t.Mirrors ids) (raw : String) :
    t.isTaken raw = true ↔ Identifier.ofText raw ∈ ids.map (·.safe) := by
  rw [← Bool.not_eq_false, isTaken_eq_false_iff]
  constructor
  · intro htaken
    by_contra hnotMem
    apply htaken
    refine ⟨?_, ?_⟩
    · rw [Option.eq_none_iff_forall_ne_some]
      intro safe hsafe
      have hmem := (h.safe_iff raw safe).1 hsafe
      exact hnotMem (List.mem_map.2 ⟨_, hmem, h.normalized _ hmem⟩)
    · rw [Option.eq_none_iff_forall_ne_some]
      intro raw' hraw'
      exact hnotMem (List.mem_map.2 ⟨_, (h.raw_iff _ raw').1 hraw', rfl⟩)
  · rintro hmem ⟨-, hfree⟩
    exact h.safe_notMem hfree hmem

end Mirrors

end IdTable

end ZoneGuard
