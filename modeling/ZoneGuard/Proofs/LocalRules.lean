import Mathlib
import ZoneGuard.LocalRules
import ZoneGuard.Proofs.Graph.Fault

/-!
# Local rules find what breaks them

What a rule that is evaluated here objects to is said of a system and of the zone that
the system names.  The evaluation gets at the zone through the table of ids, and a
system without a zone counts as one that nobody reaches from outside.  A graph that was
read from a payload has no such system, so the findings are those of exactly the
systems that break the rule.
-/

namespace ZoneGuard

open Json (Value)

theorem ZoneType.isExternal_iff {t : ZoneType} :
    t.isExternal = true ↔ t ∈ [ZoneType.internet, .dmz, .cloud] := by
  cases t <;> decide

namespace Graph

/-- The system breaks the rule by its attributes, or by those of its zone. -/
inductive Breaks (g : Graph) (s : System) : Rule → Prop
  | unpatchedExposure {zone : Location} (hzone : zone ∈ g.locations)
      (hplaced : zone.id.safe = s.location)
      (hexternal : zone.zoneType ∈ [ZoneType.internet, .dmz, .cloud])
      (hpatch : s.patchStatus = .vulnerable) : g.Breaks s .unpatchedExposure
  | endOfLife (hgrade : Grade.sensitive ≤ s.grade) (hlife : s.lifeCycle = .endOfLife) :
      g.Breaks s .endOfLife
  | auditFailure (hgrade : Grade.sensitive ≤ s.grade) (hlog : s.hasAuditLogging = false) :
      g.Breaks s .auditFailure
  | timeSyncFailure (hlog : s.hasAuditLogging = true) (hclock : s.hasSecureClock = false) :
      g.Breaks s .timeSyncFailure
  | weakSession (hgrade : Grade.sensitive ≤ s.grade) (hpolicy : s.sessionPolicy ≠ .strict) :
      g.Breaks s .weakSession
  | shadowAsset (hregistered : s.isRegistered = false) : g.Breaks s .shadowAsset

/-- The zone that the table of ids leads to is the one that the system names. -/
theorem Consistent.isExposed_iff {g : Graph} (h : g.Consistent) {s : System}
    (hs : s ∈ g.systems) :
    g.isExposed s = true ↔ ∃ zone ∈ g.locations, zone.id.safe = s.location ∧
      zone.zoneType ∈ [ZoneType.internet, .dmz, .cloud] := by
  constructor
  · intro hexposed
    obtain ⟨zone, hzone, hplaced, hfound⟩ := h.exists_zone hs
    rw [isExposed, hfound] at hexposed
    exact ⟨zone, hzone, hplaced, ZoneType.isExternal_iff.1 hexposed⟩
  · rintro ⟨zone, hzone, hplaced, hexternal⟩
    rw [isExposed, h.zone?_eq_some hzone hplaced]
    exact ZoneType.isExternal_iff.2 hexternal

/-- A system is found by a rule exactly if it breaks it. -/
theorem Consistent.violates_iff {g : Graph} (h : g.Consistent) {s : System}
    (hs : s ∈ g.systems) (r : Rule) : g.violates s r = true ↔ g.Breaks s r := by
  have hcritical : s.grade.isCritical = true ↔ Grade.sensitive ≤ s.grade := decide_eq_true_iff
  constructor
  · intro hviolates
    unfold violates at hviolates
    split at hviolates
    · obtain ⟨hpatch, hexposed⟩ := Bool.and_eq_true_iff.1 hviolates
      obtain ⟨zone, hzone, hplaced, hexternal⟩ := (h.isExposed_iff hs).1 hexposed
      exact .unpatchedExposure hzone hplaced hexternal (eq_of_beq hpatch)
    · obtain ⟨hgrade, hlife⟩ := Bool.and_eq_true_iff.1 hviolates
      exact .endOfLife (hcritical.1 hgrade) (eq_of_beq hlife)
    · obtain ⟨hgrade, hlog⟩ := Bool.and_eq_true_iff.1 hviolates
      exact .auditFailure (hcritical.1 hgrade) (by simpa using hlog)
    · obtain ⟨hlog, hclock⟩ := Bool.and_eq_true_iff.1 hviolates
      exact .timeSyncFailure hlog (by simpa using hclock)
    · obtain ⟨hgrade, hpolicy⟩ := Bool.and_eq_true_iff.1 hviolates
      exact .weakSession (hcritical.1 hgrade) (bne_iff_ne.1 hpolicy)
    · exact .shadowAsset (by simpa using hviolates)
    · cases hviolates
  · intro hbreaks
    cases hbreaks with
    | unpatchedExposure hzone hplaced hexternal hpatch =>
        have hexposed := (h.isExposed_iff hs).2 ⟨_, hzone, hplaced, hexternal⟩
        simp [violates, hpatch, hexposed]
    | endOfLife hgrade hlife => simp [violates, hcritical.2 hgrade, hlife]
    | auditFailure hgrade hlog => simp [violates, hcritical.2 hgrade, hlog]
    | timeSyncFailure hlog hclock => simp [violates, hlog, hclock]
    | weakSession hgrade hpolicy => simp [violates, hcritical.2 hgrade, hpolicy]
    | shadowAsset hregistered => simp [violates, hregistered]

/-- The table has the findings of the rules that are evaluated here, and no others. -/
structure IsLocalTable (g : Graph) (t : FindingTable) : Prop where
  keys : t.rules.map Rule.key =
    ["FindUnpatchedExposure", "FindEOL", "FindAuditFailure", "FindTimeSyncFailure",
     "FindWeakSession", "FindShadowIT"]
  /-- Under a rule stand the systems that break it, in their order and each once. -/
  findings : ∀ r ∈ t.rules, ∃ breaking : List System, breaking.Sublist g.systems ∧
    (breaking.map (·.id.raw)).Nodup ∧ (∀ s, s ∈ breaking ↔ s ∈ g.systems ∧ g.Breaks s r) ∧
    t.get? r = some (breaking.map fun s => ⟨.system s.id.raw, none, r.remediation⟩)
  /-- No system is passed over for want of a zone. -/
  placed : ∀ s ∈ g.systems,
    ∃ zone ∈ g.locations, zone.id.safe = s.location ∧ g.zone? s = some zone

/-- The table of a consistent graph, rule by rule. -/
theorem Consistent.isLocalTable {g : Graph} (h : g.Consistent) :
    g.IsLocalTable g.localFindings where
  keys := by
    rw [localFindings, RuleTable.rules_ofFn]
    decide
  findings r hr := by
    rw [localFindings, RuleTable.rules_ofFn] at hr
    refine ⟨g.systems.filter (g.violates · r), List.filter_sublist, ?_, ?_,
      RuleTable.get?_ofFn _ hr⟩
    · have hnodup := (h.mirrors .system).nodup_raw
      rw [entityIds, List.map_map] at hnodup
      exact hnodup.sublist (List.filter_sublist.map _)
    · intro s
      rw [List.mem_filter]
      exact and_congr_right fun hs => h.violates_iff hs r
  placed s hs := h.exists_zone hs

/-- The local findings of a payload's graph: under each of the six rules the systems that
break it, as they follow one another in the payload. -/
theorem isLocalTable_localFindings_of_ofJson {v : Value} {g : Graph} (hg : ofJson v = .ok g) :
    g.IsLocalTable g.localFindings ∧
      ∃ p, Payload.read v = .ok p ∧ g.systems.map (·.id.raw) = p.ids .system := by
  refine ⟨(consistent_of_ofJson hg).isLocalTable, ?_⟩
  unfold ofJson at hg
  split at hg
  · cases hg
  · next p hp => exact ⟨p, hp, (isGivenBy_of_ofPayload hg).systemRaws_eq⟩

/-- Three systems in two zones.  The last two break a rule each, one by its zone and one
by its grade. -/
def exposedPayload : Value :=
  .object
    [("locations", .array
      [.object [("id", .string "edge"), ("type", .string "dmz")],
       .object [("id", .string "inside"), ("type", .string "Intranet")]]),
     ("systems", .array
      [.object [("id", .string "b"), ("location", .string "inside"),
         ("patchStatus", .string "Vulnerable")],
       .object [("id", .string "a"), ("location", .string "edge"),
         ("patchStatus", .string "Vulnerable")],
       .object [("grade", .string "Classified"), ("hasAuditLogging", .bool true),
         ("hasSecureClock", .bool true), ("id", .string "c"), ("lifeCycle", .string "EOL"),
         ("location", .string "inside"),
         ("sessionPolicy", .string "Strict_Timeout_Concurrency")]])]

theorem isLocalTable_localFindings_of_ofJson_exposedPayload :
    ∃ g, ofJson exposedPayload = .ok g ∧
      g.localFindings.entries.map (fun (r, fs) => (r, fs.map (·.subject))) =
        [(.unpatchedExposure, [.system "a"]), (.endOfLife, [.system "c"]), (.auditFailure, []),
         (.timeSyncFailure, []), (.weakSession, []), (.shadowAsset, [])] ∧
      g.IsLocalTable g.localFindings ∧
      ∃ p, Payload.read exposedPayload = .ok p ∧ g.systems.map (·.id.raw) = p.ids .system := by
  have hread : (ofJson exposedPayload).toOption.map (fun g =>
      g.localFindings.entries.map (fun (r, fs) => (r, fs.map (·.subject)))) =
        some [(.unpatchedExposure, [.system "a"]), (.endOfLife, [.system "c"]),
          (.auditFailure, []), (.timeSyncFailure, []), (.weakSession, []), (.shadowAsset, [])] := by
    decide +kernel
  obtain ⟨g, hg, hfindings⟩ := Option.map_eq_some_iff.1 hread
  have hok := except_toOption_eq_some_iff.1 hg
  exact ⟨g, hok, hfindings, isLocalTable_localFindings_of_ofJson hok⟩

end Graph

end ZoneGuard
