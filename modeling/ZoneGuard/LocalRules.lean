import ZoneGuard.Finding
import ZoneGuard.Graph.Basic

/-!
# Rules that are evaluated here

Six rules look at one system and the zone it is placed in, so they are evaluated without the engine.
-/

namespace ZoneGuard

/-- Whether the system is in a zone that can be reached from outside. -/
def Graph.isExposed (g : Graph) (s : System) : Bool :=
  match g.zone? s with
  | some zone => zone.zoneType.isExternal
  | none => false

/-- Whether the system violates a local rule. Other rules are not looked at here. -/
def Graph.violates (g : Graph) (s : System) : Rule → Bool
  | .unpatchedExposure => s.patchStatus == .vulnerable && g.isExposed s
  | .endOfLife => s.grade.isCritical && s.lifeCycle == .endOfLife
  | .auditFailure => s.grade.isCritical && !s.hasAuditLogging
  | .timeSyncFailure => s.hasAuditLogging && !s.hasSecureClock
  | .weakSession => s.grade.isCritical && s.sessionPolicy != .strict
  | .shadowAsset => !s.isRegistered
  | _ => false

/-- The findings of all local rules, systems in their order. -/
def Graph.localFindings (g : Graph) : FindingTable :=
  .ofFn Rule.localRules fun r =>
    (g.systems.filter fun s => g.violates s r).map fun s => .ofRule r (.system s.id.raw) none

end ZoneGuard
