import Mathlib
import ZoneGuard.Proofs.Group

/-!
# Findings that are reported again

A finding that is among the findings of its rule already has its group, and the data
asset it names is among those of the group.  So findings that are only repeated leave
the groups of a rule as they are, but for the positions of the members.  Where the
findings of an engine end and the local ones begin does not matter, since both are put
into groups as one list.
-/

namespace ZoneGuard

namespace Group

/-- The second group is the first one, to which findings have come that stand behind the
known ones. -/
structure Absorbs (known more : List Finding) (g g' : Group) : Prop where
  primary : g'.primary = g.primary
  data : g'.data = g.data
  /-- The new members are those of the findings behind the known ones that belong here. -/
  members : g'.members = g.members ++ more.findIdxs (·.key = g.key) known.length

theorem dataOf_append_of_subset {fs more : List Finding} (h : more ⊆ fs) :
    dataOf (fs ++ more) = dataOf fs := by
  rw [dataOf, List.filterMap_append,
    eraseDups_append_of_subset (List.filterMap_subset _ h), dataOf]

theorem Gathers.absorbs {fs more : List Finding} {g g' : Group} (h : Gathers fs g)
    (h' : Gathers (fs ++ more) g') (hkey : g'.key = g.key) (hmore : more ⊆ fs) :
    Absorbs fs more g g' where
  primary := by
    have hfirst := h'.primary
    rw [hkey, List.find?_append, h.primary, Option.some_or] at hfirst
    exact (Option.some.inj hfirst).symm
  data := by
    rw [h'.data, hkey, List.filter_append,
      dataOf_append_of_subset (List.filter_subset _ hmore), h.data]
  members := by rw [h'.members, hkey, List.findIdxs_append, h.members, Nat.zero_add]

/-- Findings that are known already make no new groups. -/
theorem Collects.keys_eq {fs more : List Finding} {gs gs' : List Group} (h : Collects fs gs)
    (h' : Collects (fs ++ more) gs') (hmore : more ⊆ fs) : gs'.map key = gs.map key := by
  rw [h'.keys, List.map_append, eraseDups_append_of_subset (List.map_subset _ hmore), h.keys]

/-- Repeated findings leave the groups in their places, each with what it shows. -/
theorem ofFindings_absorbs {fs more : List Finding} (hmore : more ⊆ fs) :
    List.Forall₂ (Absorbs fs more) (ofFindings fs) (ofFindings (fs ++ more)) := by
  have h := collects_ofFindings fs
  have h' := collects_ofFindings (fs ++ more)
  have hsame : List.Forall₂ (fun g g' => g'.key = g.key) (ofFindings fs)
      (ofFindings (fs ++ more)) := by
    have heq := (h.keys_eq h' hmore).symm
    rw [← List.forall₂_eq_eq_eq, List.forall₂_map_left_iff, List.forall₂_map_right_iff] at heq
    exact heq.imp fun _ _ => Eq.symm
  obtain ⟨hlength, hkeys⟩ := List.forall₂_iff_zip.1 hsame
  refine List.forall₂_iff_zip.2 ⟨hlength, fun hmem => ?_⟩
  obtain ⟨hg, hg'⟩ := List.of_mem_zip hmem
  exact (h.gathers _ hg).absorbs (h'.gathers _ hg') (hkeys hmem) hmore

end Group

/-- Which table a finding comes from does not matter once they are joined. -/
theorem FindingTable.join_eq_of_forall {first second first' second' : FindingTable}
    (h : ∀ r, first'.of r ++ second'.of r = first.of r ++ second.of r) :
    first'.join second' = first.join second := by
  rw [join, join, funext h]

theorem GroupTable.merge_eq_of_forall {first second first' second' : FindingTable}
    (h : ∀ r, first'.of r ++ second'.of r = first.of r ++ second.of r) :
    merge first' second' = merge first second := by
  simp only [merge, h]

namespace Report

/-- The second report has the groups of the first one, in their order.  They have grown
by members only, and so has the number of findings. -/
structure Absorbs (known more : Rule → List Finding) (report report' : Report) : Prop where
  groups : ∀ r, ∃ gs gs', report.groups.get? r = some gs ∧ report'.groups.get? r = some gs' ∧
    List.Forall₂ (Group.Absorbs (known r) (more r)) gs gs'
  findingCount : report'.findingCount =
    report.findingCount + (Rule.all.map fun r => (more r).length).sum
  groupCount : report'.groupCount = report.groupCount

theorem findingCount_build (first second : FindingTable) (digest : String) :
    (build first second digest).findingCount =
      (Rule.all.map fun r => (first.of r ++ second.of r).length).sum := by
  rw [findingCount, build, FindingTable.join, RuleTable.values_ofFn, List.length_flatten,
    List.map_map]
  rfl

/-- A report counts the groups of the findings of both tables together. -/
theorem groupCount_build (first second : FindingTable) (digest : String) :
    (build first second digest).groupCount =
      (Rule.all.map fun r => (Group.ofFindings (first.of r ++ second.of r)).length).sum := by
  rw [groupCount, build, GroupTable.merge, RuleTable.values_ofFn, List.length_flatten,
    List.map_map]
  rfl

/-- Under each rule, the findings of two tables followed by repetitions of them, however
the whole is cut into two tables, have the groups of the findings alone.  No more than
the whole matters: two tables that join to the same lists have the same groups. -/
theorem absorbs_build {first second first' second' : FindingTable} {more : Rule → List Finding}
    (hmore : ∀ r, more r ⊆ first.of r ++ second.of r)
    (hsplit : ∀ r, first'.of r ++ second'.of r = first.of r ++ second.of r ++ more r)
    (digest digest' : String) :
    (build first second digest).Absorbs (fun r => first.of r ++ second.of r) more
        (build first' second' digest') ∧
      ∀ third fourth : FindingTable,
        (∀ r, third.of r ++ fourth.of r = first'.of r ++ second'.of r) →
        build third fourth digest' = build first' second' digest' := by
  refine ⟨⟨fun r => ?_, ?_, ?_⟩, fun third fourth hjoin => ?_⟩
  · refine ⟨_, _, GroupTable.get?_merge first second r, GroupTable.get?_merge first' second' r, ?_⟩
    rw [hsplit r]
    exact Group.ofFindings_absorbs (hmore r)
  · simp only [findingCount_build, hsplit]
    rw [← List.sum_map_add]
    simp only [List.length_append]
  · rw [groupCount_build, groupCount_build]
    refine congrArg List.sum (List.map_congr_left fun r _ => ?_)
    rw [hsplit r, (Group.ofFindings_absorbs (hmore r)).length_eq]
  · rw [build, build, FindingTable.join_eq_of_forall hjoin, GroupTable.merge_eq_of_forall hjoin]

/-- Findings on two connections and on a system. -/
def knownFindings : FindingTable :=
  ⟨[(.flowViolations,
      [⟨.connection "c", some "d", "split"⟩, ⟨.connection "e", some "d", "split"⟩,
       ⟨.connection "c", some "f", "split"⟩]),
    (.shadowAsset, [⟨.system "c", none, "register"⟩])]⟩

/-- Some of them again, in another order. -/
def repeatedFindings : FindingTable :=
  ⟨[(.flowViolations, [⟨.connection "c", some "f", "split"⟩, ⟨.connection "c", some "d", "split"⟩]),
    (.shadowAsset, [⟨.system "c", none, "register"⟩])]⟩

def firstFindings : FindingTable :=
  ⟨[(.flowViolations, [⟨.connection "c", some "d", "split"⟩])]⟩

def lastFindings : FindingTable :=
  ⟨[(.flowViolations,
      [⟨.connection "e", some "d", "split"⟩, ⟨.connection "c", some "f", "split"⟩,
       ⟨.connection "c", some "f", "split"⟩, ⟨.connection "c", some "d", "split"⟩]),
    (.shadowAsset, [⟨.system "c", none, "register"⟩, ⟨.system "c", none, "register"⟩])]⟩

theorem absorbs_build_repeatedFindings :
    (∀ r, repeatedFindings.of r ⊆ knownFindings.of r ++ FindingTable.of ∅ r) ∧
      (∀ r, firstFindings.of r ++ lastFindings.of r =
        knownFindings.of r ++ FindingTable.of ∅ r ++ repeatedFindings.of r) ∧
      (((build firstFindings lastFindings "").groups.get? .flowViolations).getD []).map
        (fun g => (g.members, g.data)) = [([0, 2, 3, 4], ["d", "f"]), ([1], ["d"])] ∧
      (build knownFindings ∅ "").Absorbs (fun r => knownFindings.of r ++ FindingTable.of ∅ r)
        repeatedFindings.of (build firstFindings lastFindings "") ∧
      build (firstFindings.join lastFindings) ∅ "" = build firstFindings lastFindings "" := by
  have hmore : ∀ r, repeatedFindings.of r ⊆ knownFindings.of r ++ FindingTable.of ∅ r := by
    intro r
    cases r <;> decide
  have hsplit : ∀ r, firstFindings.of r ++ lastFindings.of r =
      knownFindings.of r ++ FindingTable.of ∅ r ++ repeatedFindings.of r := by
    intro r
    cases r <;> rfl
  have hjoin : ∀ r, (firstFindings.join lastFindings).of r ++ FindingTable.of ∅ r =
      firstFindings.of r ++ lastFindings.of r := by
    intro r
    rw [FindingTable.of_join, FindingTable.of_empty, List.append_nil]
  obtain ⟨habsorbs, hwhole⟩ := absorbs_build hmore hsplit "" ""
  exact ⟨hmore, hsplit, by decide, habsorbs, hwhole _ _ hjoin⟩

end Report

end ZoneGuard
