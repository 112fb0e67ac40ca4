import Mathlib
import ZoneGuard.Proofs.FirstAppearance
import ZoneGuard.Proofs.Outcome

/-!
# Groups partition the findings of a rule

Findings are put into groups one after the other.  What the groups are at any
moment depends on the findings so far alone: there is one group for each
combination of subject and advice, in order of first appearance, and it has the
positions and the data assets of exactly the findings with that combination.
So positions that are stored with the groups address the joined list of a
report, which is built apart from the groups, and every position is in one
group.
-/

namespace ZoneGuard

/-- The entries at the positions where a test holds. -/
theorem filterMap_findIdxs {α : Type} (p : α → Bool) (as : List α) :
    (as.findIdxs p).filterMap (fun i => as[i]?) = as.filter p := by
  induction as using List.reverseRecOn with
  | nil => rfl
  | append_singleton as a ih =>
      have hold : ∀ i ∈ as.findIdxs p, (as ++ [a])[i]? = as[i]? := by
        intro i hi
        obtain ⟨hlt, -⟩ := List.mem_findIdxs_iff_exists_getElem_pos.1 hi
        exact List.getElem?_append_left hlt
      rw [List.findIdxs_append, List.filterMap_append, List.filter_append,
        List.filterMap_congr hold, ih]
      by_cases ha : p a = true
      · simp [ha]
      · simp [ha]

/-! ## Groups of the findings so far -/

def Finding.key (f : Finding) : Subject × String := (f.subject, f.remediation)

theorem Finding.key_eq_iff {f g : Finding} :
    f.key = g.key ↔ f.subject = g.subject ∧ f.remediation = g.remediation :=
  Prod.mk_inj

theorem Finding.isAlike_iff {f g : Finding} : f.isAlike g = true ↔ f.key = g.key := by
  rw [key_eq_iff, isAlike, Bool.and_eq_true, beq_iff_eq, beq_iff_eq]

theorem idxOf_key (fs : List Finding) (key : Subject × String) :
    (fs.map Finding.key).idxOf key = fs.findIdx (·.key = key) := by
  rw [List.idxOf, List.findIdx_map]
  congr 1
  funext f
  exact beq_eq_decide _ _

namespace Group

/-- The data assets that findings name, each once and in order of appearance. -/
def dataOf (fs : List Finding) : List String := (fs.filterMap (·.data?)).eraseDups

theorem addData_dataOf (fs : List Finding) (f : Finding) :
    addData (dataOf fs) f.data? = dataOf (fs ++ [f]) := by
  cases hdata : f.data? with
  | none => simp [addData, dataOf, hdata]
  | some id =>
      have hmore : (fs ++ [f]).filterMap (·.data?) = fs.filterMap (·.data?) ++ [id] := by
        simp [hdata]
      rw [addData, dataOf, dataOf, hmore, eraseDups_append_singleton]
      simp

def key (g : Group) : Subject × String := g.primary.key

/-- The group has whatever the findings with its key have. -/
structure Gathers (fs : List Finding) (g : Group) : Prop where
  primary : fs.find? (·.key = g.key) = some g.primary
  members : g.members = fs.findIdxs (·.key = g.key)
  data : g.data = dataOf (fs.filter (·.key = g.key))

namespace Gathers

variable {fs : List Finding} {g : Group} {f : Finding}

/-- A group takes in one more finding with its key. -/
theorem add (h : Gathers fs g) (hkey : g.key = f.key) :
    Gathers (fs ++ [f]) (g.add fs.length f) := by
  have hsame : (g.add fs.length f).key = g.key := rfl
  refine ⟨?_, ?_, ?_⟩
  · rw [hsame, List.find?_append, h.primary, Option.some_or]
    rfl
  · rw [hsame, List.findIdxs_append, ← h.members, Group.add]
    simp [hkey]
  · rw [hsame, List.filter_append, Group.add, h.data, addData_dataOf]
    simp [hkey]

/-- A finding with another key leaves a group as it is. -/
theorem skip (h : Gathers fs g) (hkey : g.key ≠ f.key) : Gathers (fs ++ [f]) g := by
  refine ⟨?_, ?_, ?_⟩
  · rw [List.find?_append, h.primary, Option.some_or]
  · rw [List.findIdxs_append, ← h.members]
    simp [hkey.symm]
  · rw [List.filter_append, h.data]
    simp [hkey.symm]

end Gathers

/-- A finding with a new key begins a group. -/
theorem gathers_single {fs : List Finding} {f : Finding} (hnew : ∀ f' ∈ fs, f'.key ≠ f.key) :
    Gathers (fs ++ [f]) (single fs.length f) := by
  have hkey : (single fs.length f).key = f.key := rfl
  have hnone : fs.find? (·.key = f.key) = none := by simpa using hnew
  have hnowhere : fs.findIdxs (·.key = f.key) = [] := by
    simpa [List.findIdxs_eq_nil_iff] using hnew
  have hempty : fs.filter (·.key = f.key) = [] := by simpa using hnew
  refine ⟨?_, ?_, ?_⟩
  · rw [hkey, List.find?_append, hnone]
    simp [single]
  · rw [hkey, List.findIdxs_append, hnowhere]
    simp [single]
  · rw [hkey, List.filter_append, hempty]
    have hdata := addData_dataOf [] f
    simpa [single, dataOf] using hdata

/-- There is one group for each key of the findings, in order of appearance. -/
structure Collects (fs : List Finding) (gs : List Group) : Prop where
  keys : gs.map key = (fs.map Finding.key).eraseDups
  gathers : ∀ g ∈ gs, Gathers fs g

theorem insert_of_notMem {i : Nat} {f : Finding} {gs : List Group}
    (hnew : f.key ∉ gs.map key) : insert i f gs = gs ++ [single i f] := by
  induction gs with
  | nil => rfl
  | cons g gs ih =>
      rw [List.map_cons, List.mem_cons, not_or] at hnew
      have hother : ¬ g.primary.isAlike f = true := fun h => hnew.1 (Finding.isAlike_iff.1 h).symm
      rw [insert, if_neg hother, ih hnew.2, List.cons_append]

/-- If no key is repeated, the first group that fits is the only one. -/
theorem insert_of_mem {i : Nat} {f : Finding} {gs : List Group}
    (hnodup : (gs.map key).Nodup) (hmem : f.key ∈ gs.map key) :
    insert i f gs = gs.map fun g => if g.key = f.key then g.add i f else g := by
  induction gs with
  | nil => simp at hmem
  | cons g gs ih =>
      rw [List.map_cons, List.nodup_cons] at hnodup
      rw [insert, List.map_cons]
      by_cases hkey : g.key = f.key
      · have hothers : ∀ h ∈ gs, (if h.key = f.key then h.add i f else h) = h := by
          intro h hh
          refine if_neg fun heq => hnodup.1 ?_
          rw [hkey, ← heq]
          exact List.mem_map_of_mem hh
        rw [if_pos (Finding.isAlike_iff.2 hkey), if_pos hkey, List.map_congr_left hothers,
          List.map_id']
      · have hlater : f.key ∈ gs.map key := (List.mem_cons.1 hmem).resolve_left (Ne.symm hkey)
        rw [if_neg (mt Finding.isAlike_iff.1 hkey), if_neg hkey, ih hnodup.2 hlater]

namespace Collects

variable {fs : List Finding} {gs : List Group}

theorem nodup_keys (h : Collects fs gs) : (gs.map key).Nodup := h.keys ▸ nodup_eraseDups _

theorem mem_keys_iff (h : Collects fs gs) {f : Finding} :
    f.key ∈ gs.map key ↔ f.key ∈ fs.map Finding.key := by
  rw [h.keys, List.mem_eraseDups]

/-- One more finding joins its group or begins one. -/
theorem insert (h : Collects fs gs) (f : Finding) :
    Collects (fs ++ [f]) (Group.insert fs.length f gs) := by
  by_cases hmem : f.key ∈ fs.map Finding.key
  · rw [insert_of_mem h.nodup_keys (h.mem_keys_iff.2 hmem)]
    constructor
    · rw [List.map_map, List.map_append, List.map_singleton, eraseDups_append_singleton,
        if_pos hmem, ← h.keys]
      refine List.map_congr_left fun g _ => ?_
      rw [Function.comp_apply]
      split <;> rfl
    · intro g' hg'
      obtain ⟨g, hg, rfl⟩ := List.mem_map.1 hg'
      split
      · next hkey => exact (h.gathers g hg).add hkey
      · next hkey => exact (h.gathers g hg).skip hkey
  · rw [insert_of_notMem (mt h.mem_keys_iff.1 hmem)]
    constructor
    · rw [List.map_append, List.map_append, h.keys, List.map_singleton, List.map_singleton,
        eraseDups_append_singleton, if_neg hmem]
      rfl
    · intro g hg
      rcases List.mem_append.1 hg with hold | hnew
      · refine (h.gathers g hold).skip fun heq => hmem ?_
        rw [← h.mem_keys_iff, ← heq]
        exact List.mem_map_of_mem hold
      · rw [List.mem_singleton.1 hnew]
        refine gathers_single fun f' hf' heq => hmem ?_
        rw [← heq]
        exact List.mem_map_of_mem hf'

theorem insertAll (h : Collects fs gs) (more : List Finding) :
    Collects (fs ++ more) (Group.insertAll gs fs.length more) := by
  induction more generalizing fs gs with
  | nil => simpa [Group.insertAll] using h
  | cons f more ih =>
      have hrest := ih (h.insert f)
      rwa [List.length_append, List.length_singleton, List.append_assoc,
        List.singleton_append] at hrest

end Collects

theorem collects_ofFindings (fs : List Finding) : Collects fs (ofFindings fs) := by
  have hnone : Collects [] [] := ⟨rfl, by simp⟩
  exact hnone.insertAll fs

/-! ## The partition -/

/-- Each position of the findings is in one group, with the positions of all
findings on the same subject with the same advice. -/
structure IsPartition (fs : List Finding) (gs : List Group) : Prop where
  increasing : ∀ g ∈ gs, g.members.Pairwise (· < ·)
  disjoint : gs.Pairwise fun g g' => g.members.Disjoint g'.members
  mem_iff : ∀ i, (∃ g ∈ gs, i ∈ g.members) ↔ i < fs.length
  together_iff : ∀ i j f f', fs[i]? = some f → fs[j]? = some f' →
    ((∃ g ∈ gs, i ∈ g.members ∧ j ∈ g.members) ↔
      f.subject = f'.subject ∧ f.remediation = f'.remediation)
  /-- A group shows the finding at its first position. -/
  primary : ∀ g ∈ gs, ∃ i, g.members.head? = some i ∧ fs[i]? = some g.primary
  ordered : gs.Pairwise fun g g' =>
    ∃ i j, g.members.head? = some i ∧ g'.members.head? = some j ∧ i < j
  /-- The data assets of a group are those of its members, each once and in order
  of appearance. -/
  data : ∀ g ∈ gs, g.data = (g.members.filterMap fun i => fs[i]?.bind (·.data?)).eraseDups

namespace Gathers

variable {fs : List Finding} {g : Group}

theorem mem_members_iff (h : Gathers fs g) {i : Nat} :
    i ∈ g.members ↔ ∃ f, fs[i]? = some f ∧ f.key = g.key := by
  rw [h.members, List.mem_findIdxs_iff_exists_getElem_pos]
  constructor
  · rintro ⟨hi, hkey⟩
    exact ⟨fs[i], List.getElem?_eq_getElem hi, of_decide_eq_true hkey⟩
  · rintro ⟨f, hf, hkey⟩
    obtain ⟨hi, rfl⟩ := List.getElem?_eq_some_iff.1 hf
    exact ⟨hi, decide_eq_true hkey⟩

theorem head?_members (h : Gathers fs g) :
    g.members.head? = some (fs.findIdx (·.key = g.key)) := by
  have hfound : fs.findIdxs (·.key = g.key) ≠ [] := by
    intro hnone
    have hprimary := List.find?_some h.primary
    rw [List.findIdxs_eq_nil_iff] at hnone
    rw [hnone _ (List.mem_of_find?_eq_some h.primary)] at hprimary
    cases hprimary
  have hpos : 0 < (fs.findIdxs (·.key = g.key)).length := List.length_pos_iff.2 hfound
  rw [h.members, List.head?_eq_getElem?, List.getElem?_eq_getElem hpos,
    List.getElem_zero_findIdxs_eq_findIdx hpos]

theorem getElem?_findIdx (h : Gathers fs g) :
    fs[fs.findIdx (·.key = g.key)]? = some g.primary := by
  rw [← List.find?_eq_getElem?_findIdx, h.primary]

theorem filterMap_members (h : Gathers fs g) :
    (g.members.filterMap fun i => fs[i]?.bind (·.data?)) =
      (fs.filter (·.key = g.key)).filterMap (·.data?) := by
  rw [h.members, ← filterMap_findIdxs, List.filterMap_filterMap]

end Gathers

/-- Groups that collect all findings partition them. -/
theorem Collects.isPartition {fs : List Finding} {gs : List Group} (h : Collects fs gs) :
    IsPartition fs gs where
  increasing g hg := (h.gathers g hg).members ▸ List.pairwise_findIdxs
  disjoint := by
    refine (List.pairwise_map.1 h.nodup_keys).imp_of_mem fun hg hg' hne i hi hi' => hne ?_
    obtain ⟨f, hf, hkey⟩ := (h.gathers _ hg).mem_members_iff.1 hi
    obtain ⟨f', hf', hkey'⟩ := (h.gathers _ hg').mem_members_iff.1 hi'
    cases hf.symm.trans hf'
    exact hkey.symm.trans hkey'
  mem_iff i := by
    constructor
    · rintro ⟨g, hg, hi⟩
      obtain ⟨f, hf, -⟩ := (h.gathers g hg).mem_members_iff.1 hi
      exact (List.getElem?_eq_some_iff.1 hf).1
    · intro hi
      have hkey := h.mem_keys_iff.2 (List.mem_map_of_mem (List.getElem_mem hi))
      obtain ⟨g, hg, hgkey⟩ := List.mem_map.1 hkey
      exact ⟨g, hg, (h.gathers g hg).mem_members_iff.2
        ⟨_, List.getElem?_eq_getElem hi, hgkey.symm⟩⟩
  together_iff i j f f' hi hj := by
    rw [← Finding.key_eq_iff]
    constructor
    · rintro ⟨g, hg, hgi, hgj⟩
      obtain ⟨_, hf, hkey⟩ := (h.gathers g hg).mem_members_iff.1 hgi
      obtain ⟨_, hf', hkey'⟩ := (h.gathers g hg).mem_members_iff.1 hgj
      cases hi.symm.trans hf
      cases hj.symm.trans hf'
      exact hkey.trans hkey'.symm
    · intro heq
      have hkey := h.mem_keys_iff.2 (List.mem_map_of_mem (List.mem_of_getElem? hi))
      obtain ⟨g, hg, hgkey⟩ := List.mem_map.1 hkey
      exact ⟨g, hg, (h.gathers g hg).mem_members_iff.2 ⟨f, hi, hgkey.symm⟩,
        (h.gathers g hg).mem_members_iff.2 ⟨f', hj, heq.symm.trans hgkey.symm⟩⟩
  primary g hg := ⟨_, (h.gathers g hg).head?_members, (h.gathers g hg).getElem?_findIdx⟩
  ordered := by
    have horder := pairwise_idxOf_eraseDups (fs.map Finding.key)
    simp only [← h.keys, List.pairwise_map, idxOf_key] at horder
    exact horder.imp_of_mem fun hg hg' hlt =>
      ⟨_, _, (h.gathers _ hg).head?_members, (h.gathers _ hg').head?_members, hlt⟩
  data g hg := by
    rw [(h.gathers g hg).filterMap_members, (h.gathers g hg).data, dataOf]

theorem isPartition_ofFindings (fs : List Finding) : IsPartition fs (ofFindings fs) :=
  (collects_ofFindings fs).isPartition

end Group

/-! ## Reports -/

/-- The report has the findings of two tables under each rule, and their groups. -/
structure Report.IsJoin (first second : FindingTable) (report : Report) : Prop where
  findings_rules : report.findings.rules = Rule.all
  groups_rules : report.groups.rules = Rule.all
  findings : ∀ r, report.findings.get? r = some (first.of r ++ second.of r)
  groups : ∀ r, ∃ gs, report.groups.get? r = some gs ∧
    Group.IsPartition (first.of r ++ second.of r) gs
  findingCount_eq : report.findingCount = (Rule.all.map fun r => (report.findings.of r).length).sum
  groupCount_eq : report.groupCount =
    (Rule.all.map fun r => ((report.groups.get? r).getD []).length).sum
  isClean_iff : report.isClean = true ↔ ∀ r, report.findings.of r = []

theorem RuleTable.length_flatten_values_ofFn {α : Type} (f : Rule → List α) :
    (ofFn Rule.all f).values.flatten.length =
      (Rule.all.map fun r => (((ofFn Rule.all f).get? r).getD []).length).sum := by
  have hvalue : ∀ r ∈ Rule.all, (((ofFn Rule.all f).get? r).getD []).length = (f r).length :=
    fun r hr => by rw [get?_ofFn f hr, Option.getD_some]
  rw [values_ofFn, List.length_flatten, List.map_map, List.map_congr_left hvalue]
  rfl

/-- A report joins both tables and groups the findings of each rule. -/
theorem Report.isJoin_build (first second : FindingTable) (digest : String) :
    (build first second digest).IsJoin first second where
  findings_rules := RuleTable.rules_ofFn _ _
  groups_rules := RuleTable.rules_ofFn _ _
  findings r := RuleTable.get?_ofFn _ r.mem_all
  groups r := ⟨_, GroupTable.get?_merge first second r, Group.isPartition_ofFindings _⟩
  findingCount_eq := RuleTable.length_flatten_values_ofFn _
  groupCount_eq := RuleTable.length_flatten_values_ofFn _
  isClean_iff := by
    have hcount : (build first second digest).findingCount =
        (Rule.all.map fun r => ((build first second digest).findings.of r).length).sum :=
      RuleTable.length_flatten_values_ofFn _
    rw [isClean, beq_iff_eq, hcount, List.sum_eq_zero_iff]
    simp [Rule.mem_all]

end ZoneGuard
