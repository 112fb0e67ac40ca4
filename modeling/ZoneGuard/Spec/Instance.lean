import ZoneGuard.Graph.Basic
import ZoneGuard.Rule.Basic
import ZoneGuard.Spec.Base

/-!
# The specification of a graph

The forms that describe one graph: after the base, a signature and a fact for every entity, the
signature that has a field for every rule the engine evaluates, and the search. A set is written as
a union in which no atom is repeated, and `none` if it is empty.
-/

namespace ZoneGuard

def specificationName : String := "archcheck_instance"

/-- The comment between the base and the entities of the graph. -/
def instanceComment : String := "---- instance ----"

/-- The identifiers without repeats, in order of first appearance, as a union of atoms. -/
def setExpression (kind : EntityKind) (ids : List Identifier) : String :=
  if ids.isEmpty then "none"
  else " + ".intercalate (ids.eraseDups.map kind.atomLabel)

def flagAtom (b : Bool) : String := if b then "True" else "False"

def entityForms (kind : EntityKind) (id : Identifier) (values : List (String × String)) :
    List Spec.Form :=
  let atom := kind.atomLabel id
  [.signature { multiplicity := .one, names := [atom], parent := some kind.signature },
   .fact { equations := values.map fun (field, value) => (atom ++ "." ++ field, value) },
   .blank]

open Attribute (atom)

def Location.fieldValues (l : Location) : List (String × String) :=
  [("grade", atom l.grade), ("type", atom l.zoneType)]

def DataAsset.fieldValues (d : DataAsset) : List (String × String) :=
  [("grade", atom d.grade), ("fileType", atom d.contentType)]

def System.fieldValues (s : System) : List (String × String) :=
  [("grade", atom s.grade),
   ("loc", EntityKind.location.atomLabel s.location),
   ("type", atom s.systemType),
   ("authType", atom s.authType),
   ("isCDS", flagAtom s.isCrossDomain),
   ("isRegistered", flagAtom s.isRegistered),
   ("isStorageEncrypted", flagAtom s.isStorageEncrypted),
   ("isManagement", flagAtom s.isManagement),
   ("isolation", atom s.isolation),
   ("hasMDM", flagAtom s.isDeviceManaged),
   ("patchStatus", atom s.patchStatus),
   ("lifeCycle", atom s.lifeCycle),
   ("hasAuditLogging", flagAtom s.hasAuditLogging),
   ("hasSecureClock", flagAtom s.hasSecureClock),
   ("sessionPolicy", atom s.sessionPolicy),
   ("stores", setExpression .data s.stores)]

def Connection.fieldValues (c : Connection) : List (String × String) :=
  [("from", EntityKind.system.atomLabel c.source),
   ("to", EntityKind.system.atomLabel c.target),
   ("carries", setExpression .data c.carries),
   ("protocol", atom c.protocol),
   ("isEncrypted", flagAtom c.isEncrypted),
   ("hasCDR", flagAtom c.hasDisarming),
   ("hasDLP", flagAtom c.hasLossPrevention),
   ("hasAntiVirus", flagAtom c.hasAntiVirus)]

def Location.forms (l : Location) : List Spec.Form :=
  entityForms .location l.id.safe l.fieldValues

/-- The forms of a data asset. A comment marks one that is inferred. -/
def DataAsset.forms (d : DataAsset) : List Spec.Form :=
  (if d.inferred then [.comment ("inferred from reference: " ++ d.id.safe.text)] else [])
    ++ entityForms .data d.id.safe d.fieldValues

def System.forms (s : System) : List Spec.Form :=
  entityForms .system s.id.safe s.fieldValues

def Connection.forms (c : Connection) : List Spec.Form :=
  entityForms .connection c.id.safe c.fieldValues

def resultSignature : String := "AnalysisResult"

/-- The relations that the engine evaluates, and the function that defines each. -/
def resultForms : List Spec.Form :=
  [.signature
     { multiplicity := .one
       names := [resultSignature]
       fields := Rule.engineRules.map fun r => (r.key, "set " ++ r.arity.typeExpression) },
   .blank,
   .fact
     { name := some ("Define" ++ resultSignature)
       equations := Rule.engineRules.filterMap fun r =>
         r.engineFunction?.map fun function => (resultSignature ++ "." ++ r.key, function) },
   .blank]

namespace Graph

/-- How many atoms of each signature the search has to admit: enough for every kind of entity, and
at least three. -/
def scope (g : Graph) : Nat :=
  (EntityKind.all.map g.count).foldl max 3

def entityForms (g : Graph) : List Spec.Form :=
  g.locations.flatMap Location.forms ++ g.data.flatMap DataAsset.forms
    ++ g.systems.flatMap System.forms ++ g.connections.flatMap Connection.forms

/-- The forms up to the comment before the entities, which are the same for every graph. -/
def commonForms : List Spec.Form :=
  [.heading specificationName, .blank] ++ Spec.base ++ [.blank, .comment instanceComment, .blank]

def forms (g : Graph) : List Spec.Form :=
  commonForms ++ g.entityForms ++ resultForms ++ [.run g.scope]

end Graph

end ZoneGuard
