import ZoneGuard.Numeric.Decimal

/-!
# JSON values

Values as they are read from a document. A number without fraction and exponent between `-2 ^ 63`
and `2 ^ 64 - 1` is an integer, and every other number is binary floating point. Members of an
object stand in the order in which they are written out.
-/

namespace ZoneGuard.Json

/-- A number, exact where it is an integer. -/
inductive Number where
  | integer (value : Int)
  | float (value : Binary64)
deriving DecidableEq, Repr

def Number.text : Number → String
  | .integer n => toString n
  | .float x => Decimal.floatText x

/-- A JSON value. -/
inductive Value where
  | null
  | bool (b : Bool)
  | number (n : Number)
  | string (s : String)
  | array (items : List Value)
  | object (members : List (String × Value))
deriving Inhabited

namespace Value

def ofNat (n : Nat) : Value := .number (.integer n)

def ofTexts (texts : List String) : Value := .array (texts.map .string)

def ofText? : Option String → Value
  | some s => .string s
  | none => .null

def member? (v : Value) (name : String) : Option Value :=
  match v with
  | .object members => members.lookup name
  | _ => none

def text? : Value → Option String
  | .string s => some s
  | _ => none

def items? : Value → Option (List Value)
  | .array vs => some vs
  | _ => none

def nat? : Value → Option Nat
  | .number (.integer (.ofNat n)) => some n
  | _ => none

end Value

/-- The members with one set, in the order of the names. A member of the same name is replaced. -/
def setMember (name : String) (value : Value) :
    List (String × Value) → List (String × Value)
  | [] => [(name, value)]
  | (other, v) :: rest =>
    if name = other then (name, value) :: rest
    else if name < other then (name, value) :: (other, v) :: rest
    else (other, v) :: setMember name value rest

mutual

/-- The value with the members of every object in the order of their names. -/
def Value.sorted : Value → Value
  | .array items => .array (sortedItems items)
  | .object members => .object (sortedMembers members)
  | v => v

def sortedItems : List Value → List Value
  | [] => []
  | v :: vs => v.sorted :: sortedItems vs

/-- The members by name, each with sorted members of its own. Of two members with one name the first
is kept. -/
def sortedMembers : List (String × Value) → List (String × Value)
  | [] => []
  | (name, v) :: rest => setMember name v.sorted (sortedMembers rest)

end

end ZoneGuard.Json
