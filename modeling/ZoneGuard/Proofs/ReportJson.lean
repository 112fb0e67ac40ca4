import Mathlib
import ZoneGuard.Proofs.Group
import ZoneGuard.Proofs.Json.Written

/-!
# Reports as JSON

A report is written as objects with members of different names, nested a few levels
deep, and its numbers count findings or point at them.  So the report can be read
from what is written for it, as long as a word can count its findings.
-/

namespace ZoneGuard

open Json (Value IsReadable)

theorem isReadable_ofNat {depth n : Nat} (h : n < UInt64.size) :
    IsReadable depth (Value.ofNat n) := by
  cases depth <;> exact ⟨n, h, rfl⟩

theorem isReadable_string (depth : Nat) (s : String) : IsReadable depth (.string s) := by
  cases depth <;> trivial

/-- A finding can be read again. -/
theorem Finding.isReadable_toJson (f : Finding) (depth : Nat) :
    IsReadable (depth + 1) f.toJson := by
  obtain ⟨subject, data?, remediation⟩ := f
  cases subject <;> cases data? <;>
    simp [Finding.toJson, Subject.toMember, IsReadable, isReadable_string]

/-- A group can be read again if its members are numbers of 64 bits. -/
theorem Group.isReadable_toJson {g : Group} (h : ∀ i ∈ g.members, i < UInt64.size)
    (depth : Nat) : IsReadable (depth + 2) g.toJson := by
  refine ⟨by simp, ?_⟩
  simp only [List.forall_mem_cons, List.not_mem_nil, false_imp_iff, implies_true, and_true]
  refine ⟨g.primary.isReadable_toJson depth, ?_, ?_⟩
  · intro v hv
    obtain ⟨i, hi, rfl⟩ := List.mem_map.1 hv
    exact isReadable_ofNat (h i hi)
  · intro v hv
    obtain ⟨id, -, rfl⟩ := List.mem_map.1 hv
    exact isReadable_string depth id

theorem Warning.isReadable_toJson (w : Warning) (depth : Nat) :
    IsReadable (depth + 1) w.toJson := by
  cases w <;> simp [Warning.toJson, IsReadable, isReadable_string]

/-- A table can be read again if its items can. -/
theorem RuleTable.isReadable_toJson {α : Type} {t : RuleTable (List α)} {item : α → Value}
    (hrules : t.rules.Nodup) {depth : Nat}
    (hitems : ∀ a ∈ t.values.flatten, IsReadable depth (item a)) :
    IsReadable (depth + 2) (t.toJson item) := by
  constructor
  · rw [List.map_map]
    have hkeys : (t.rules.map Rule.key).Nodup := hrules.map Rule.key_injective
    rwa [RuleTable.rules, List.map_map] at hkeys
  · intro m hm
    obtain ⟨entry, hentry, rfl⟩ := List.mem_map.1 hm
    intro v hv
    obtain ⟨a, ha, rfl⟩ := List.mem_map.1 hv
    exact hitems a (List.mem_flatten.2 ⟨entry.2, List.mem_map_of_mem hentry, ha⟩)

theorem Group.length_ofFindings_le (fs : List Finding) : (ofFindings fs).length ≤ fs.length := by
  have hkeys := congrArg List.length (collects_ofFindings fs).keys
  have hsubperm := (nodup_eraseDups (fs.map Finding.key)).subperm fun _ => List.mem_eraseDups.1
  have hle := hsubperm.length_le
  rw [List.length_map] at hkeys hle
  exact hkeys ▸ hle

theorem Rule.nodup_all : all.Nodup := by decide

/-- If there are fewer findings than a word of 64 bits can count, the report can be
read from what is written for it. -/
theorem Report.isReadable_toJson {report : Report} {first second : FindingTable}
    (hfindings : report.findings = first.join second)
    (hgroups : report.groups = .merge first second)
    (hcount : report.findingCount < UInt64.size) (depth : Nat) :
    IsReadable (depth + 5) report.toJson := by
  have hvalues : report.findings.values = Rule.all.map fun r => first.of r ++ second.of r := by
    rw [hfindings, FindingTable.join, RuleTable.values_ofFn]
  have hgroupValues : report.groups.values =
      Rule.all.map fun r => Group.ofFindings (first.of r ++ second.of r) := by
    rw [hgroups, GroupTable.merge, RuleTable.values_ofFn]
  have hle : ∀ r ∈ Rule.all, (first.of r ++ second.of r).length ≤ report.findingCount := by
    intro r hr
    rw [Report.findingCount, hvalues]
    have hmem : first.of r ++ second.of r ∈ Rule.all.map fun r => first.of r ++ second.of r :=
      List.mem_map_of_mem hr
    exact (List.sublist_flatten_of_mem hmem).length_le
  have hgroupCount : report.groupCount ≤ report.findingCount := by
    rw [Report.groupCount, Report.findingCount, hvalues, hgroupValues, List.length_flatten,
      List.length_flatten, List.map_map, List.map_map]
    exact List.sum_le_sum fun r _ => Group.length_ofFindings_le _
  have hthreats : IsReadable (depth + 4) (report.findings.toJson Finding.toJson) := by
    refine RuleTable.isReadable_toJson ?_ fun f _ => f.isReadable_toJson (depth + 1)
    rw [hfindings, FindingTable.join, RuleTable.rules_ofFn]
    exact Rule.nodup_all
  have hmerged : IsReadable (depth + 4) (report.groups.toJson Group.toJson) := by
    refine RuleTable.isReadable_toJson ?_ fun g hg => Group.isReadable_toJson (fun i hi => ?_) depth
    · rw [hgroups, GroupTable.merge, RuleTable.rules_ofFn]
      exact Rule.nodup_all
    · rw [hgroupValues] at hg
      obtain ⟨gs, hgs, hg⟩ := List.mem_flatten.1 hg
      obtain ⟨r, hr, rfl⟩ := List.mem_map.1 hgs
      have hi := ((Group.isPartition_ofFindings _).mem_iff i).1 ⟨g, hg, hi⟩
      exact (hi.trans_le (hle r hr)).trans hcount
  have hwarnings : ∀ w ∈ report.warnings, IsReadable (depth + 3) w.toJson :=
    fun w _ => w.isReadable_toJson (depth + 2)
  have hcounts : IsReadable (depth + 4) (Value.ofNat report.groupCount) :=
    isReadable_ofNat (hgroupCount.trans_lt hcount)
  cases hreason : report.degradedReason? <;>
    simpa [Report.toJson, hreason, IsReadable, hthreats, hmerged, hcounts,
      isReadable_ofNat hcount] using hwarnings

end ZoneGuard
