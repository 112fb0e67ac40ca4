import Mathlib

/-!
# Entries in the order of their first appearance

Repeated entries of a list are dropped and the first of them stays.  What is left
stands in the order of the first positions, so a list that grows at its end keeps what
is left of its beginning.
-/

namespace ZoneGuard

variable {α : Type} [BEq α] [LawfulBEq α]

/-- One more item counts exactly if it is new. -/
theorem eraseDups_append_singleton (as : List α) (a : α) :
    (as ++ [a]).eraseDups = if a ∈ as then as.eraseDups else as.eraseDups ++ [a] := by
  have hsingle : [a].eraseDups = [a] := by simp [List.eraseDups_cons]
  by_cases ha : a ∈ as
  · simp [List.eraseDups_append, List.removeAll, ha]
  · simp [List.eraseDups_append, List.removeAll, ha, hsingle]

/-- Entries that are there already leave no trace. -/
theorem eraseDups_append_of_subset {as bs : List α} (h : bs ⊆ as) :
    (as ++ bs).eraseDups = as.eraseDups := by
  have hnone : bs.removeAll as = [] := by
    rw [List.removeAll, List.filter_eq_nil_iff]
    intro b hb
    simp [h hb]
  rw [List.eraseDups_append, hnone, List.eraseDups_nil, List.append_nil]

/-- Entries are kept in the order in which they first appear. -/
theorem pairwise_idxOf_eraseDups (as : List α) :
    as.eraseDups.Pairwise fun a b => as.idxOf a < as.idxOf b := by
  induction as using List.reverseRecOn with
  | nil => exact List.Pairwise.nil
  | append_singleton as a ih =>
      have hold : as.eraseDups.Pairwise fun b c => (as ++ [a]).idxOf b < (as ++ [a]).idxOf c :=
        ih.imp_of_mem fun hb hc hlt => by
          rwa [List.idxOf_append_of_mem (List.mem_eraseDups.1 hb),
            List.idxOf_append_of_mem (List.mem_eraseDups.1 hc)]
      rw [eraseDups_append_singleton]
      split
      · exact hold
      · next ha =>
        rw [List.pairwise_append]
        refine ⟨hold, List.pairwise_singleton _ _, fun b hb c hc => ?_⟩
        rw [List.mem_eraseDups] at hb
        rw [List.mem_singleton.1 hc, List.idxOf_append_of_mem hb, List.idxOf_append_of_notMem ha]
        exact Nat.lt_add_right _ (List.idxOf_lt_length_of_mem hb)

theorem nodup_eraseDups (as : List α) : as.eraseDups.Nodup :=
  (pairwise_idxOf_eraseDups as).imp fun hlt heq => (heq ▸ hlt).false

end ZoneGuard
