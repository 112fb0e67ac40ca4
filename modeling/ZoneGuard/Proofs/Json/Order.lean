import Mathlib
import ZoneGuard.Json.Value

/-!
# Members in order

Members that are set one by one stand in the order of their names.  If no name is
given twice, it does not matter in which order they are set.
-/

namespace ZoneGuard.Json

theorem setMember_cons_of_lt {name other : String} (h : name < other) (v u : Value)
    (ms : List (String × Value)) :
    setMember name v ((other, u) :: ms) = (name, v) :: (other, u) :: ms := by
  rw [setMember, if_neg h.ne, if_pos h]

theorem setMember_cons_self (name : String) (v u : Value) (ms : List (String × Value)) :
    setMember name v ((name, u) :: ms) = (name, v) :: ms := by
  rw [setMember, if_pos rfl]

theorem setMember_cons_of_gt {name other : String} (h : other < name) (v u : Value)
    (ms : List (String × Value)) :
    setMember name v ((other, u) :: ms) = (other, u) :: setMember name v ms := by
  rw [setMember, if_neg h.ne', if_neg h.not_gt]

theorem setMember_comm_of_lt {name name' : String} (hlt : name < name') (v v' : Value)
    (ms : List (String × Value)) :
    setMember name v (setMember name' v' ms) = setMember name' v' (setMember name v ms) := by
  induction ms with
  | nil =>
      rw [setMember, setMember_cons_of_lt hlt, setMember, setMember_cons_of_gt hlt, setMember]
  | cons m ms ih =>
      obtain ⟨other, u⟩ := m
      rcases lt_trichotomy name other with hname | rfl | hname
      · rcases lt_trichotomy name' other with hname' | rfl | hname'
        · rw [setMember_cons_of_lt hname', setMember_cons_of_lt hlt, setMember_cons_of_lt hname,
            setMember_cons_of_gt hlt, setMember_cons_of_lt hname']
        · rw [setMember_cons_self, setMember_cons_of_lt hlt, setMember_cons_of_lt hlt,
            setMember_cons_of_gt hlt, setMember_cons_self]
        · rw [setMember_cons_of_gt hname', setMember_cons_of_lt hname, setMember_cons_of_lt hname,
            setMember_cons_of_gt hlt, setMember_cons_of_gt hname']
      · rw [setMember_cons_of_gt hlt, setMember_cons_self, setMember_cons_self,
          setMember_cons_of_gt hlt]
      · rw [setMember_cons_of_gt (hname.trans hlt), setMember_cons_of_gt hname,
          setMember_cons_of_gt hname, setMember_cons_of_gt (hname.trans hlt), ih]

theorem setMember_comm {name name' : String} (hne : name ≠ name') (v v' : Value)
    (ms : List (String × Value)) :
    setMember name v (setMember name' v' ms) = setMember name' v' (setMember name v ms) := by
  rcases lt_or_gt_of_ne hne with hlt | hlt
  · exact setMember_comm_of_lt hlt v v' ms
  · exact (setMember_comm_of_lt hlt v' v ms).symm
theorem foldl_setMember {ms : List (String × Value)} {name : String} (v : Value)
    (hname : name ∉ ms.map (·.1)) (known : List (String × Value)) :
    ms.foldl (fun known m => setMember m.1 m.2 known) (setMember name v known) =
      setMember name v (ms.foldl (fun known m => setMember m.1 m.2 known) known) := by
  induction ms generalizing known with
  | nil => rfl
  | cons m ms ih =>
      rw [List.map_cons, List.mem_cons, not_or] at hname
      rw [List.foldl_cons, List.foldl_cons, setMember_comm (Ne.symm hname.1), ih hname.2]

/-- Names of members in ascending order. -/
def IsAscending (ms : List (String × Value)) : Prop := ms.Pairwise fun m m' => m.1 < m'.1

theorem mem_of_mem_setMember {name : String} {v : Value} {ms : List (String × Value)}
    {m : String × Value} (h : m ∈ setMember name v ms) : m = (name, v) ∨ m ∈ ms := by
  induction ms with
  | nil => exact Or.inl (List.mem_singleton.1 h)
  | cons other ms ih =>
      obtain ⟨otherName, u⟩ := other
      rcases lt_trichotomy name otherName with hlt | rfl | hlt
      · rw [setMember_cons_of_lt hlt] at h
        exact List.mem_cons.1 h
      · rw [setMember_cons_self] at h
        exact (List.mem_cons.1 h).imp_right (List.mem_cons_of_mem _)
      · rw [setMember_cons_of_gt hlt] at h
        rcases List.mem_cons.1 h with rfl | h
        · exact Or.inr List.mem_cons_self
        · exact (ih h).imp_right (List.mem_cons_of_mem _)

/-- Setting a member keeps the order of the names. -/
theorem IsAscending.setMember {ms : List (String × Value)} (h : IsAscending ms) (name : String)
    (v : Value) : IsAscending (setMember name v ms) := by
  induction ms with
  | nil => exact List.pairwise_singleton _ _
  | cons m ms ih =>
      obtain ⟨other, u⟩ := m
      have hcons := List.pairwise_cons.1 h
      rcases lt_trichotomy name other with hlt | rfl | hlt
      · rw [setMember_cons_of_lt hlt]
        refine List.pairwise_cons.2 ⟨fun m hm => ?_, h⟩
        rcases List.mem_cons.1 hm with rfl | hm
        · exact hlt
        · exact hlt.trans (hcons.1 m hm)
      · rw [setMember_cons_self]
        exact List.pairwise_cons.2 hcons
      · rw [setMember_cons_of_gt hlt]
        refine List.pairwise_cons.2 ⟨fun m hm => ?_, ih hcons.2⟩
        rcases mem_of_mem_setMember hm with rfl | hm
        · exact hlt
        · exact hcons.1 m hm

theorem isAscending_sortedMembers (ms : List (String × Value)) :
    IsAscending (sortedMembers ms) := by
  induction ms with
  | nil => exact List.Pairwise.nil
  | cons m ms ih => exact ih.setMember m.1 m.2.sorted

theorem setMember_of_lt {name : String} {v : Value} {ms : List (String × Value)}
    (h : ∀ m ∈ ms, name < m.1) : setMember name v ms = (name, v) :: ms := by
  cases ms with
  | nil => rfl
  | cons m ms => exact setMember_cons_of_lt (h m List.mem_cons_self) v m.2 ms

/-- Members in order stay where they are. -/
theorem IsAscending.sortedMembers_eq_map {ms : List (String × Value)} (h : IsAscending ms) :
    sortedMembers ms = ms.map fun m => (m.1, m.2.sorted) := by
  induction ms with
  | nil => rfl
  | cons m ms ih =>
      have hcons := List.pairwise_cons.1 h
      rw [sortedMembers, ih hcons.2, List.map_cons]
      refine setMember_of_lt fun m' hm' => ?_
      obtain ⟨m', hmem, rfl⟩ := List.mem_map.1 hm'
      exact hcons.1 m' hmem

theorem exists_of_mem_sortedMembers {ms : List (String × Value)} {m : String × Value}
    (h : m ∈ sortedMembers ms) : ∃ m' ∈ ms, m = (m'.1, m'.2.sorted) := by
  induction ms with
  | nil => exact absurd h List.not_mem_nil
  | cons other ms ih =>
      rcases mem_of_mem_setMember h with rfl | h
      · exact ⟨other, List.mem_cons_self, rfl⟩
      · obtain ⟨m', hm', rfl⟩ := ih h
        exact ⟨m', List.mem_cons_of_mem _ hm', rfl⟩

theorem sortedItems_eq_map (vs : List Value) : sortedItems vs = vs.map Value.sorted := by
  induction vs with
  | nil => rfl
  | cons v vs ih => rw [sortedItems, ih, List.map_cons]

/-- If no name is repeated, it does not matter from which end members are put in order. -/
theorem foldl_sorted_eq_sortedMembers {ms : List (String × Value)}
    (hnodup : (ms.map (·.1)).Nodup) :
    (ms.map fun m => (m.1, m.2.sorted)).foldl (fun known m => setMember m.1 m.2 known) [] =
      sortedMembers ms := by
  induction ms with
  | nil => rfl
  | cons m ms ih =>
      rw [List.map_cons, List.nodup_cons] at hnodup
      rw [List.map_cons, List.foldl_cons, foldl_setMember _ (by simpa using hnodup.1),
        ih hnodup.2, sortedMembers]

end ZoneGuard.Json
