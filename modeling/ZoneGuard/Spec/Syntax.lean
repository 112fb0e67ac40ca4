import ZoneGuard.Text.Lines

/-!
# Specification syntax

The few forms that a relational specification is written with: signatures, facts that bind fields to
values, and named definitions. A form is a list of lines, and a text is a list of forms.
-/

namespace ZoneGuard.Spec

/-- How many atoms a signature has. -/
inductive Multiplicity where
  /-- The atoms of its extensions. -/
  | «abstract»
  /-- A single atom. -/
  | one
deriving DecidableEq, Repr

/-- The declaration of one signature or of several that differ in name only. -/
structure Signature where
  multiplicity : Multiplicity
  names : List String
  parent : Option String := none
  /-- The fields with their types. -/
  fields : List (String × String) := []
deriving DecidableEq

/-- A fact: a conjunction of equations between expressions. -/
structure Fact where
  name : Option String := none
  equations : List (String × String)
deriving DecidableEq

/-- A form of a specification. -/
inductive Form where
  | blank
  | heading (name : String)
  | comment (text : String)
  | signature (s : Signature)
  | fact (f : Fact)
  /-- A predicate or function: its head and the lines of its body. -/
  | definition (head : String) (body : List String)
  /-- A search for an instance with at most `scope` atoms of each signature. -/
  | run (scope : Nat)
deriving DecidableEq

def indent (line : String) : String := "    " ++ line

def braced (head : String) (body : List String) : List String :=
  (head ++ " \x7b") :: body ++ ["\x7d"]

/-- The lines with a comma behind each but the last. -/
def separated : List String → List String
  | [] => []
  | [line] => [line]
  | line :: lines => (line ++ ",") :: separated lines

/-- The first line of a signature, up to its brace. -/
def Signature.head (s : Signature) : String :=
  (match s.multiplicity with
    | .abstract => "abstract sig "
    | .one => "one sig ")
    ++ ", ".intercalate s.names
    ++ (match s.parent with
      | some p => " extends " ++ p
      | none => "")

def Form.lines : Form → List String
  | .blank => [""]
  | .heading name => ["module " ++ name]
  | .comment text => ["// " ++ text]
  | .signature s =>
    if s.fields.isEmpty then [s.head ++ " \x7b\x7d"]
    else braced s.head (separated (s.fields.map fun (name, type) => indent (name ++ ": " ++ type)))
  | .fact f =>
    let head := match f.name with
      | some name => "fact " ++ name
      | none => "fact"
    braced head (f.equations.map fun (left, right) => indent (left ++ " = " ++ right))
  | .definition head body => braced head (body.map indent)
  | .run scope => ["run \x7b\x7d for " ++ toString scope]

def Form.declared : Form → List String
  | .signature s => s.names
  | _ => []

def render (forms : List Form) : String :=
  Text.unlines (forms.flatMap Form.lines)

end ZoneGuard.Spec
