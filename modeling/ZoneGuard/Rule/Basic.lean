import ZoneGuard.Identifier

/-!
# Rules

The catalog of the rules that an architecture can violate. Thirteen rules are relations that an
external engine evaluates on the specification; six look at one system and its zone and are
evaluated here. Each rule has a key, which names it in engine output and in reports, a shape, and
the advice that goes with a violation.
-/

namespace ZoneGuard

/-- The shape of a violation: its subject, and whether a data asset is part of it. -/
inductive Arity where
  | system
  | connection
  | systemData
  | connectionData
deriving DecidableEq, Repr

namespace Arity

def name : Arity → String
  | .system => "System"
  | .connection => "Connection"
  | .systemData => "SystemData"
  | .connectionData => "ConnectionData"

def subject : Arity → EntityKind
  | .system | .systemData => .system
  | .connection | .connectionData => .connection

def hasData : Arity → Bool
  | .systemData | .connectionData => true
  | .system | .connection => false

def typeExpression : Arity → String
  | .system => "System"
  | .connection => "Connection"
  | .systemData => "System -> Data"
  | .connectionData => "Connection -> Data"

/-- The least length of a tuple in engine output, whose first atom is the owner of the relation. -/
def tupleLength (a : Arity) : Nat := if a.hasData then 3 else 2

end Arity

/-- A rule of the catalog. The constructors stand in catalog order. -/
inductive Rule where
  | storageViolations
  | flowViolations
  | locationViolations
  | bypassViolations
  | unencryptedChannels
  | authIntegrityGaps
  | contentControlFailures
  | unencryptedStorage
  | adminAccessViolation
  | malwareInspectionGaps
  | unmanagedMobileAccess
  | wirelessExposure
  | unisolatedInternetAccess
  | unpatchedExposure
  | endOfLife
  | auditFailure
  | timeSyncFailure
  | weakSession
  | shadowAsset
deriving DecidableEq, Repr

namespace Rule

def all : List Rule :=
  [.storageViolations, .flowViolations, .locationViolations, .bypassViolations,
   .unencryptedChannels, .authIntegrityGaps, .contentControlFailures, .unencryptedStorage,
   .adminAccessViolation, .malwareInspectionGaps, .unmanagedMobileAccess, .wirelessExposure,
   .unisolatedInternetAccess, .unpatchedExposure, .endOfLife, .auditFailure, .timeSyncFailure,
   .weakSession, .shadowAsset]

/-- The name of the rule in engine output and in reports. -/
def key : Rule → String
  | .storageViolations => "FindStorageViolations"
  | .flowViolations => "FindFlowViolations"
  | .locationViolations => "FindLocationViolations"
  | .bypassViolations => "FindBypassViolations"
  | .unencryptedChannels => "FindUnencryptedChannels"
  | .authIntegrityGaps => "FindAuthIntegrityGaps"
  | .contentControlFailures => "FindContentControlFailures"
  | .unencryptedStorage => "FindUnencryptedStorage"
  | .adminAccessViolation => "FindAdminAccessViolation"
  | .malwareInspectionGaps => "FindMalwareInspectionGaps"
  | .unmanagedMobileAccess => "FindUnmanagedMobileAccess"
  | .wirelessExposure => "FindWirelessExposure"
  | .unisolatedInternetAccess => "FindUnisolatedInternetAccess"
  | .unpatchedExposure => "FindUnpatchedExposure"
  | .endOfLife => "FindEOL"
  | .auditFailure => "FindAuditFailure"
  | .timeSyncFailure => "FindTimeSyncFailure"
  | .weakSession => "FindWeakSession"
  | .shadowAsset => "FindShadowIT"

def arity : Rule → Arity
  | .storageViolations | .unencryptedStorage => .systemData
  | .flowViolations | .contentControlFailures | .malwareInspectionGaps => .connectionData
  | .bypassViolations | .unencryptedChannels | .adminAccessViolation
  | .unmanagedMobileAccess | .unisolatedInternetAccess => .connection
  | _ => .system

/-- The function that computes the rule in the base of every specification, or `none` if the rule is
evaluated here. -/
def engineFunction? : Rule → Option String
  | .storageViolations => some "detectStorageViolations"
  | .flowViolations => some "detectFlowViolations"
  | .locationViolations => some "detectLocationViolations"
  | .bypassViolations => some "detectBypassViolations"
  | .unencryptedChannels => some "detectUnencryptedChannels"
  | .authIntegrityGaps => some "detectAuthIntegrityGaps"
  | .contentControlFailures => some "detectContentControlFailures"
  | .unencryptedStorage => some "detectUnencryptedStorage"
  | .adminAccessViolation => some "detectAdminAccessViolation"
  | .malwareInspectionGaps => some "detectMalwareInspectionGaps"
  | .unmanagedMobileAccess => some "detectUnmanagedMobileAccess"
  | .wirelessExposure => some "detectWirelessExposure"
  | .unisolatedInternetAccess => some "detectUnisolatedInternetAccess"
  | _ => none

def byEngine (r : Rule) : Bool := r.engineFunction?.isSome

/-- The rules that the external engine evaluates, in catalog order. -/
def engineRules : List Rule := all.filter byEngine

/-- The rules that are evaluated here, in catalog order. -/
def localRules : List Rule := all.filter fun r => !r.byEngine

def remediation : Rule → String
  | .storageViolations =>
    "Raise the system's security grade, or move the data to a system of sufficient grade."
  | .flowViolations =>
    "Place a CDS on this path, or apply network isolation (VDI/RBI) at the source."
  | .locationViolations => "Move the system into a zone of matching security grade."
  | .bypassViolations =>
    "Remove the direct link from the Internet zone to the internal network and route it "
      ++ "through a CDS."
  | .unencryptedChannels => "Switch this link to an encrypted protocol (HTTPS, SSH, VPN)."
  | .authIntegrityGaps =>
    "Enable multi-factor authentication (MFA) and register the system in the asset inventory."
  | .contentControlFailures =>
    "Apply CDR (content disarm and reconstruction) to files and DLP to sensitive data crossing "
      ++ "zones."
  | .unencryptedStorage => "Encrypt sensitive data at rest (database or full-disk encryption)."
  | .adminAccessViolation =>
    "Administrative interfaces must only be reached from dedicated management devices."
  | .malwareInspectionGaps =>
    "Inspect executable content with anti-malware before it is transferred."
  | .unmanagedMobileAccess =>
    "Enroll the mobile device in MDM before granting access to non-public systems."
  | .wirelessExposure =>
    "Move classified systems off wireless segments onto a wired, isolated zone."
  | .unisolatedInternetAccess =>
    "Reach the Internet from sensitive systems only through VDI/RBI isolation or a CDS."
  | .unpatchedExposure =>
    "[N2SF-IN-1] Unpatched exposure: a vulnerable system sits at an external boundary. Apply "
      ++ "security patches."
  | .endOfLife =>
    "[N2SF-IN-9] End-of-life asset: an unsupported (EOL) asset is used as a sensitive system. "
      ++ "Replace or upgrade it."
  | .auditFailure =>
    "[N2SF-Log] Missing audit log: audit logging is disabled on a sensitive system."
  | .timeSyncFailure =>
    "[N2SF-Log] Missing time sync: trustworthy logs need a secure time source (NTP)."
  | .weakSession =>
    "[N2SF-SN-3] Weak session control: enforce session timeouts and concurrent login limits."
  | .shadowAsset =>
    "[N2SF-DV-M1] Unregistered asset: a system missing from the security asset inventory is "
      ++ "connected."

def ofKey? (key : String) : Option Rule := all.find? (·.key == key)

theorem mem_all (r : Rule) : r ∈ all := by
  cases r <;> decide

theorem ofKey?_key (r : Rule) : ofKey? r.key = some r := by
  cases r <;> decide

end Rule

end ZoneGuard
