import ZoneGuard.Finding

/-!
# Groups of findings

Findings of one rule that have the same subject and the same advice are one item for the reader. A
group shows its first finding, the positions of all its members, and the data assets they name, each
once and in order of first appearance.
-/

namespace ZoneGuard

open Json (Value)

/-- Findings with one subject and one advice. -/
structure Group where
  primary : Finding
  /-- The positions of the members among the findings of the rule. -/
  members : List Nat
  data : List String
deriving DecidableEq, Repr

/-- Whether two findings belong to one group. -/
def Finding.isAlike (f g : Finding) : Bool :=
  f.subject == g.subject && f.remediation == g.remediation

namespace Group

/-- The data assets with one more, unless it is among them. -/
def addData (data : List String) : Option String → List String
  | some id => if data.contains id then data else data ++ [id]
  | none => data

def single (index : Nat) (f : Finding) : Group := ⟨f, [index], addData [] f.data?⟩

def add (g : Group) (index : Nat) (f : Finding) : Group :=
  { g with members := g.members ++ [index], data := addData g.data f.data? }

/-- Adds the finding at the position to its group. A new group goes behind the others. -/
def insert (index : Nat) (f : Finding) : List Group → List Group
  | [] => [single index f]
  | g :: gs => if g.primary.isAlike f then g.add index f :: gs else g :: insert index f gs

def insertAll (groups : List Group) (index : Nat) : List Finding → List Group
  | [] => groups
  | f :: fs => insertAll (insert index f groups) (index + 1) fs

/-- The groups of the findings, in order of their first members. -/
def ofFindings (fs : List Finding) : List Group := insertAll [] 0 fs

def toJson (g : Group) : Value :=
  .object
    [("primary", g.primary.toJson), ("member_indices", .array (g.members.map .ofNat)),
     ("data", .ofTexts g.data)]

end Group

/-- The findings of every rule in two tables, the ones of the first table before the others. -/
def FindingTable.join (first second : FindingTable) : FindingTable :=
  .ofFn Rule.all fun r => first.of r ++ second.of r

abbrev GroupTable := RuleTable (List Group)

/-- The groups of the findings of every rule in two tables. -/
def GroupTable.merge (first second : FindingTable) : GroupTable :=
  .ofFn Rule.all fun r => Group.ofFindings (first.of r ++ second.of r)

end ZoneGuard
