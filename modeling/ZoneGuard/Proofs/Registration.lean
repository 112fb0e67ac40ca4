import Mathlib
import ZoneGuard.IdTable
import ZoneGuard.Proofs.IdTable

/-!
# Ids registered one after the other

Insertions into a table that is empty at first, with any positions and in any order, those that
fail included.  Of all calls whose ids have one normal form the first is the one that is held,
so what a table answers is told by the calls alone: ids and identifiers are matched one to one,
and whether a call fails depends on the ids before it, not on how these calls went.
-/

namespace ZoneGuard

namespace IdTable

/-- The results of insertions, and the table after them.  One that fails leaves the table. -/
def insertAll : List (String × Nat) → IdTable → List (Except IdConflict Identifier) × IdTable
  | [], t => ([], t)
  | (raw, index) :: calls, t =>
    match t.insert raw index with
    | .ok (safe, t) =>
      let (results, t) := insertAll calls t
      (.ok safe :: results, t)
    | .error e =>
      let (results, t) := insertAll calls t
      (.error e :: results, t)

/-- The first of the calls whose id has the normal form. -/
def firstClaim? (calls : List (String × Nat)) (safe : Identifier) : Option (String × Nat) :=
  calls.find? fun call => Identifier.ofText call.1 == safe

/-- What the entry with an identifier was made from. -/
def claim? (t : IdTable) (safe : Identifier) : Option (String × Nat) :=
  (t.entryOf? safe).map fun e => (e.raw, e.index)

section

variable {calls : List (String × Nat)} {t t' : IdTable} {raw : String} {index : Nat}
  {safe : Identifier}

theorem raw?_eq (t : IdTable) (safe : Identifier) : t.raw? safe = (t.claim? safe).map (·.1) := by
  simp [raw?, claim?, Function.comp_def]

/-- A position is looked up by who claimed the identifier. -/
theorem index?_eq (t : IdTable) (safe : Identifier) :
    t.index? safe = (t.claim? safe).map (·.2) := by
  simp [index?, claim?, Function.comp_def]

theorem claim?_cons (e : IdEntry) (entries : List IdEntry) (safe : Identifier) :
    claim? ⟨e :: entries⟩ safe =
      if e.id = safe then some (e.raw, e.index) else claim? ⟨entries⟩ safe := by
  by_cases h : e.id = safe <;> simp [claim?, entryOf?, h]

/-- A later call claims an identifier only if nobody did before. -/
theorem firstClaim?_append (calls : List (String × Nat)) (raw : String) (index : Nat)
    (safe : Identifier) : firstClaim? (calls ++ [(raw, index)]) safe =
      (firstClaim? calls safe).or (if Identifier.ofText raw = safe then some (raw, index) else none)
    := by
  by_cases h : Identifier.ofText raw = safe <;> simp [firstClaim?, h]

theorem ofText_of_firstClaim? (h : firstClaim? calls safe = some (raw, index)) :
    Identifier.ofText raw = safe := by
  simpa using List.find?_some h

/-! ## One call -/

/-- The table holds, for each normal form, the first of the calls that had it, and finds it by
its id as well. -/
structure Holds (t : IdTable) (calls : List (String × Nat)) : Prop where
  claim?_eq : ∀ safe, t.claim? safe = firstClaim? calls safe
  safe?_iff : ∀ raw safe, t.safe? raw = some safe ↔ t.raw? safe = some raw

theorem holds_empty : (∅ : IdTable).Holds [] where
  claim?_eq _ := rfl
  safe?_iff raw safe := by simp

namespace Holds

variable (h : t.Holds calls)
include h

theorem ofText_of_raw? (hraw : t.raw? safe = some raw) : Identifier.ofText raw = safe := by
  rw [raw?_eq, h.claim?_eq, Option.map_eq_some_iff] at hraw
  obtain ⟨⟨claimed, index⟩, hclaim, rfl⟩ := hraw
  exact ofText_of_firstClaim? hclaim

/-- A name is taken exactly if its normal form has an id. -/
theorem isTaken_iff (raw : String) :
    t.isTaken raw = true ↔ (t.raw? (Identifier.ofText raw)).isSome := by
  rw [← Bool.not_eq_false, isTaken_eq_false_iff, Option.isSome_iff_ne_none, not_iff_not,
    and_iff_right_iff_imp]
  intro hfree
  rw [Option.eq_none_iff_forall_ne_some]
  intro safe hsafe
  have hraw := (h.safe?_iff raw safe).1 hsafe
  rw [h.ofText_of_raw? hraw, hraw] at hfree
  cases hfree

/-- An insertion that succeeds is the first claim of its normal form. -/
theorem insert (hins : t.insert raw index = .ok (safe, t')) :
    t'.Holds (calls ++ [(raw, index)]) := by
  obtain ⟨hraw, hsafe, rfl, rfl⟩ := insert_eq_ok_iff.1 hins
  have hnone : firstClaim? calls (Identifier.ofText raw) = none := by
    rw [raw?_eq, h.claim?_eq, Option.map_eq_none_iff] at hsafe
    exact hsafe
  constructor
  · intro safe
    rw [claim?_cons, firstClaim?_append, ← h.claim?_eq]
    by_cases heq : Identifier.ofText raw = safe
    · subst heq
      simp [h.claim?_eq, hnone]
    · simp [heq]
  · intro raw' safe'
    rw [safe?_cons, raw?_cons]
    by_cases hid : Identifier.ofText raw = safe'
    · subst hid
      have hold : t.safe? raw' ≠ some (Identifier.ofText raw) := by
        rw [ne_eq, h.safe?_iff, hsafe]
        simp
      by_cases heq : raw = raw' <;> simp [heq, hold]
    · have hold : t.raw? safe' ≠ some raw := fun hraw' => hid (h.ofText_of_raw? hraw')
      by_cases heq : raw = raw'
      · subst heq
        simp [hid, hold]
      · simp [heq, hid, h.safe?_iff]

/-- An insertion fails if its normal form is claimed already, so that claim stays the first. -/
theorem insert_error {e : IdConflict} (hins : t.insert raw index = .error e) :
    t.Holds (calls ++ [(raw, index)]) := by
  refine ⟨fun safe => ?_, h.safe?_iff⟩
  have htaken : (t.raw? (Identifier.ofText raw)).isSome = true := by
    rw [← h.isTaken_iff]
    by_contra hfree
    rw [Bool.not_eq_true, isTaken_eq_false_iff] at hfree
    have hok : t.insert raw index =
        .ok (Identifier.ofText raw, ⟨⟨raw, Identifier.ofText raw, index⟩ :: t.entries⟩) :=
      insert_eq_ok_iff.2 ⟨hfree.1, hfree.2, rfl, rfl⟩
    rw [hins] at hok
    cases hok
  rw [firstClaim?_append, h.claim?_eq]
  by_cases heq : Identifier.ofText raw = safe
  · subst heq
    rw [raw?_eq, h.claim?_eq, Option.isSome_map] at htaken
    obtain ⟨claim, hclaim⟩ := Option.isSome_iff_exists.1 htaken
    rw [hclaim]
    rfl
  · simp [heq]

end Holds

/-! ## All calls -/

/-- How a table answers after some calls, and what the next call will come to. -/
structure Answers (t : IdTable) (calls : List (String × Nat)) : Prop where
  /-- From identifiers to ids and back. -/
  inverse : ∀ raw safe, t.raw? safe = some raw ↔ t.safe? raw = some safe
  normal : ∀ raw safe, t.raw? safe = some raw → safe = Identifier.ofText raw
  /-- The position is the one that the id was given with, when it first came. -/
  position : ∀ raw safe, t.raw? safe = some raw →
    ∃ index, firstClaim? calls safe = some (raw, index) ∧ t.index? safe = some index
  /-- A call keeps others out, whether it has succeeded or not. -/
  taken_iff : ∀ raw, t.isTaken raw = true ↔
    ∃ call ∈ calls, Identifier.ofText call.1 = Identifier.ofText raw
  fails_iff : ∀ raw index, (∃ e, t.insert raw index = .error e) ↔ t.isTaken raw = true
  duplicate_iff : ∀ raw index,
    t.insert raw index = .error .duplicate ↔ (t.safe? raw).isSome = true
  collision_of_error : ∀ raw index e, t.insert raw index = .error e → e ≠ .duplicate →
    ∃ existing, e = .collision (Identifier.ofText raw) existing ∧ existing ≠ raw ∧
      Identifier.ofText existing = Identifier.ofText raw ∧
      t.safe? existing = some (Identifier.ofText raw)

/-- An id is refused if it is registered itself, and otherwise if another one is in its
place. -/
theorem insert_eq_error_iff {e : IdConflict} : t.insert raw index = .error e ↔
    ((t.safe? raw).isSome = true ∧ e = .duplicate) ∨
      t.safe? raw = none ∧ ∃ existing, t.raw? (Identifier.ofText raw) = some existing ∧
        e = .collision (Identifier.ofText raw) existing := by
  have hknown : (t.ofRaw? raw).isSome = (t.safe? raw).isSome := by simp [safe?]
  unfold IdTable.insert
  rw [hknown]
  split
  · next hraw =>
    have hne : t.safe? raw ≠ none := Option.isSome_iff_ne_none.1 hraw
    simp [hraw, hne, eq_comm]
  · next hraw =>
    have hnone : t.safe? raw = none := by simpa using hraw
    simp only [hnone, Option.isSome_none, Bool.false_eq_true, false_and, false_or, true_and]
    split
    · next existing hexisting => simp [hexisting, eq_comm]
    · next hfree => simp [hfree]

/-- A name is taken exactly if a call was made for its normal form. -/
theorem Holds.isTaken_iff_exists (h : t.Holds calls) (raw : String) :
    t.isTaken raw = true ↔ ∃ call ∈ calls, Identifier.ofText call.1 = Identifier.ofText raw := by
  rw [h.isTaken_iff, raw?_eq, h.claim?_eq, Option.isSome_map, firstClaim?, List.find?_isSome]
  simp only [beq_iff_eq]

/-- A table that holds what was claimed answers accordingly. -/
theorem Holds.answers (h : t.Holds calls) : t.Answers calls where
  inverse raw safe := (h.safe?_iff raw safe).symm
  normal raw safe hraw := (h.ofText_of_raw? hraw).symm
  position raw safe hraw := by
    rw [raw?_eq, Option.map_eq_some_iff] at hraw
    obtain ⟨⟨claimed, index⟩, hclaim, rfl⟩ := hraw
    exact ⟨index, by rw [← h.claim?_eq, hclaim], by rw [index?_eq, hclaim]; rfl⟩
  taken_iff := h.isTaken_iff_exists
  fails_iff raw index := by
    constructor
    · rintro ⟨e, he⟩
      rw [h.isTaken_iff]
      rcases insert_eq_error_iff.1 he with ⟨hraw, -⟩ | ⟨-, existing, hexisting, -⟩
      · obtain ⟨safe, hsafe⟩ := Option.isSome_iff_exists.1 hraw
        have hraw' := (h.safe?_iff raw safe).1 hsafe
        rw [h.ofText_of_raw? hraw', hraw']
        rfl
      · rw [hexisting]
        rfl
    · intro htaken
      rw [h.isTaken_iff] at htaken
      obtain ⟨existing, hexisting⟩ := Option.isSome_iff_exists.1 htaken
      cases hraw : t.safe? raw with
      | none => exact ⟨_, insert_eq_error_iff.2 (Or.inr ⟨hraw, existing, hexisting, rfl⟩)⟩
      | some safe => exact ⟨_, insert_eq_error_iff.2 (Or.inl ⟨by rw [hraw]; rfl, rfl⟩)⟩
  duplicate_iff raw index := by
    rw [insert_eq_error_iff]
    constructor
    · rintro (⟨hraw, -⟩ | ⟨-, existing, -, hcollision⟩)
      · exact hraw
      · cases hcollision
    · exact fun hraw => Or.inl ⟨hraw, rfl⟩
  collision_of_error raw index e he hne := by
    rcases insert_eq_error_iff.1 he with ⟨-, hduplicate⟩ | ⟨hraw, existing, hexisting, rfl⟩
    · exact absurd hduplicate hne
    · refine ⟨existing, rfl, ?_, h.ofText_of_raw? hexisting, (h.safe?_iff _ _).2 hexisting⟩
      rintro rfl
      rw [(h.safe?_iff _ _).2 hexisting] at hraw
      cases hraw

/-- Every call keeps the table in step with what was claimed. -/
theorem holds_insertAll (h : t.Holds calls) (more : List (String × Nat)) :
    (insertAll more t).2.Holds (calls ++ more) := by
  induction more generalizing calls t with
  | nil => simpa [insertAll] using h
  | cons call more ih =>
      obtain ⟨raw, index⟩ := call
      rw [List.append_cons, insertAll]
      split
      · next safe t' hins => exact ih (h.insert hins)
      · next e hins => exact ih (h.insert_error hins)

/-- Each call that succeeds adds one entry. -/
theorem size_insertAll (calls : List (String × Nat)) (t : IdTable) :
    (insertAll calls t).2.size = t.size + (insertAll calls t).1.countP (·.isOk) := by
  induction calls generalizing t with
  | nil => rfl
  | cons call calls ih =>
      obtain ⟨raw, index⟩ := call
      rw [insertAll]
      split
      · next safe t' hins =>
        obtain ⟨-, -, -, rfl⟩ := insert_eq_ok_iff.1 hins
        dsimp only
        rw [ih, List.countP_cons_of_pos rfl, size, size, List.length_cons]
        omega
      · next e hins =>
        dsimp only
        rw [ih, List.countP_cons_of_neg (Bool.false_ne_true)]

/-- Calls are made one after the other. -/
theorem insertAll_append (calls more : List (String × Nat)) (t : IdTable) :
    insertAll (calls ++ more) t =
      ((insertAll calls t).1 ++ (insertAll more (insertAll calls t).2).1,
        (insertAll more (insertAll calls t).2).2) := by
  induction calls generalizing t with
  | nil => rfl
  | cons call calls ih =>
      obtain ⟨raw, index⟩ := call
      rw [List.cons_append, insertAll, insertAll]
      split <;> simp [ih]

/-- Whatever insertions have been tried on a table that was empty, ids and identifiers are
matched one to one, each insertion that succeeded counts once, and the next one fails exactly
if its id is taken; then the table stays as it is. -/
theorem answers_insertAll (calls : List (String × Nat)) :
    (insertAll calls ∅).2.Answers calls ∧
      (insertAll calls ∅).2.size = (insertAll calls ∅).1.countP (·.isOk) ∧
      ∀ raw index e, (insertAll calls ∅).2.insert raw index = .error e →
        insertAll (calls ++ [(raw, index)]) ∅ =
          ((insertAll calls ∅).1 ++ [.error e], (insertAll calls ∅).2) := by
  have hholds := holds_insertAll holds_empty calls
  rw [List.nil_append] at hholds
  refine ⟨hholds.answers, ?_, fun raw index e he => ?_⟩
  · rw [size_insertAll]
    exact Nat.zero_add _
  · rw [insertAll_append]
    simp only [insertAll, he]

end

/-- Calls of which the second fails for its normal form and the third for its id. -/
def clashingCalls : List (String × Nat) := [("a-b", 7), ("a.b", 1), ("a-b", 2), ("", 0)]

theorem answers_insertAll_clashingCalls :
    (insertAll clashingCalls ∅).1.map (·.isOk) = [true, false, false, true] ∧
      (insertAll clashingCalls ∅).2.Answers clashingCalls ∧
      (insertAll clashingCalls ∅).2.size = 2 ∧
      (insertAll clashingCalls ∅).2.index? (.ofText "a_b") = some 7 ∧
      (insertAll (clashingCalls ++ [("id_", 9)]) ∅).2 = (insertAll clashingCalls ∅).2 := by
  obtain ⟨hanswers, hsize, hkept⟩ := answers_insertAll clashingCalls
  have herror : (insertAll clashingCalls ∅).2.insert "id_" 9 =
      .error (.collision (.ofText "id_") "") := by decide +kernel
  exact ⟨by decide +kernel, hanswers, hsize.trans (by decide +kernel), by decide +kernel,
    by rw [hkept "id_" 9 _ herror]⟩

end IdTable

end ZoneGuard
