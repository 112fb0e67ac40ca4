import ZoneGuard.Attribute
import ZoneGuard.Identifier
import ZoneGuard.Spec.Syntax

/-!
# The base of every specification

The enumerations, the four kinds of entity with their fields, the order of the grades, and one
function for each rule that the engine evaluates.
-/

namespace ZoneGuard.Spec

/-- The signatures of an enumeration: an abstract one, and one for each member. -/
def enumeration (name : String) (atoms : List String) : List Form :=
  [.signature { multiplicity := .abstract, names := [name] },
   .signature { multiplicity := .one, names := atoms, parent := some name },
   .blank]

def attributeForms (α : Type) [Attribute α] : List Form :=
  enumeration (Attribute.signature α) ((Attribute.all : List α).map Attribute.atom)

def entitySignature (kind : EntityKind) (fields : List (String × String)) : List Form :=
  [.signature { multiplicity := .abstract, names := [kind.signature], fields }, .blank]

def enumerationForms : List Form :=
  enumeration "Bool" ["True", "False"] ++ attributeForms Grade ++ attributeForms ZoneType
    ++ attributeForms ContentType ++ attributeForms SystemType ++ attributeForms AuthType
    ++ attributeForms Isolation ++ attributeForms PatchStatus ++ attributeForms LifeCycle
    ++ attributeForms SessionPolicy ++ attributeForms Protocol

def gradeOrderForms : List Form :=
  [.comment "g1 is strictly below g2 in Open < Sensitive < Classified.",
   .definition "pred lowerGrade[g1, g2: Grade]"
     ["(g1 = Open and g2 in Sensitive + Classified) or",
      "(g1 = Sensitive and g2 = Classified)"],
   .blank]

def entityForms : List Form :=
  entitySignature .location [("grade", "one Grade"), ("type", "one ZoneType")]
    ++ entitySignature .data [("grade", "one Grade"), ("fileType", "one ContentType")]
    ++ entitySignature .system
      [("grade", "one Grade"), ("loc", "one Location"), ("type", "one SystemType"),
       ("authType", "one AuthType"), ("isCDS", "one Bool"), ("isRegistered", "one Bool"),
       ("isStorageEncrypted", "one Bool"), ("isManagement", "one Bool"),
       ("isolation", "one Isolation"), ("hasMDM", "one Bool"), ("patchStatus", "one PatchStatus"),
       ("lifeCycle", "one LifeCycle"), ("hasAuditLogging", "one Bool"),
       ("hasSecureClock", "one Bool"), ("sessionPolicy", "one SessionPolicy"),
       ("stores", "set Data")]
    ++ entitySignature .connection
      [("from", "one System"), ("to", "one System"), ("carries", "set Data"),
       ("protocol", "one Protocol"), ("isEncrypted", "one Bool"), ("hasCDR", "one Bool"),
       ("hasDLP", "one Bool"), ("hasAntiVirus", "one Bool")]

def ruleForms : List Form :=
  [.definition "fun detectStorageViolations: System -> Data"
     ["\x7b s: System, d: Data | d in s.stores and lowerGrade[s.grade, d.grade] \x7d"],
   .blank,
   .definition "fun detectFlowViolations: Connection -> Data"
     ["\x7b c: Connection, d: Data |",
      "    d in c.carries",
      "    and lowerGrade[c.to.grade, d.grade]",
      "    and c.from.isCDS = False",
      "    and c.to.isCDS = False",
      "    and c.from.isolation = IsolationNone \x7d"],
   .blank,
   .definition "fun detectLocationViolations: set System"
     ["\x7b s: System | lowerGrade[s.loc.grade, s.grade] \x7d"],
   .blank,
   .definition "fun detectBypassViolations: set Connection"
     ["\x7b c: Connection |",
      "    c.from.loc.type = Internet",
      "    and c.to.loc.type not in Internet + DMZ",
      "    and lowerGrade[c.from.loc.grade, c.to.loc.grade]",
      "    and c.from.isCDS = False",
      "    and c.to.isCDS = False \x7d"],
   .blank,
   .definition "fun detectUnencryptedChannels: set Connection"
     ["\x7b c: Connection | c.isEncrypted = False \x7d"],
   .blank,
   .definition "fun detectAuthIntegrityGaps: set System"
     ["\x7b s: System | (s.grade != Open and s.authType != MFA) or s.isRegistered = False \x7d"],
   .blank,
   .definition "fun detectContentControlFailures: Connection -> Data"
     ["\x7b c: Connection, d: Data |",
      "    d in c.carries",
      "    and c.from.loc != c.to.loc",
      "    and ((d.fileType in Document + Executable and c.hasCDR = False)",
      "         or (d.grade != Open and c.hasDLP = False)) \x7d"],
   .blank,
   .definition "fun detectUnencryptedStorage: System -> Data"
     ["\x7b s: System, d: Data | d in s.stores and d.grade != Open" ++
      " and s.isStorageEncrypted = False \x7d"],
   .blank,
   .definition "fun detectAdminAccessViolation: set Connection"
     ["\x7b c: Connection | c.to.isManagement = True and c.from.isManagement = False \x7d"],
   .blank,
   .definition "fun detectMalwareInspectionGaps: Connection -> Data"
     ["\x7b c: Connection, d: Data | d in c.carries and d.fileType = Executable" ++
      " and c.hasAntiVirus = False \x7d"],
   .blank,
   .definition "fun detectUnmanagedMobileAccess: set Connection"
     ["\x7b c: Connection | c.from.type = Mobile and c.from.hasMDM = False" ++
      " and c.to.grade != Open \x7d"],
   .blank,
   .definition "fun detectWirelessExposure: set System"
     ["\x7b s: System | s.grade = Classified and s.loc.type = Wireless \x7d"],
   .blank,
   .definition "fun detectUnisolatedInternetAccess: set Connection"
     ["\x7b c: Connection |",
      "    c.from.grade != Open",
      "    and c.from.isCDS = False",
      "    and c.from.isolation = IsolationNone",
      "    and c.to.loc.type = Internet \x7d"]]

def base : List Form :=
  [.comment "Base model: enumerations, entity kinds, grade ordering and one function",
   .comment "per solver rule. Instance signatures and the result shape follow.",
   .blank]
    ++ enumerationForms ++ gradeOrderForms ++ entityForms ++ ruleForms

end ZoneGuard.Spec
