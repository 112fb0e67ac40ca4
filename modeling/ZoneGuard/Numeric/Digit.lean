/-!
# Digits

Digits of the bases up to sixteen, with letters in either case, and the numbers they form.
-/

namespace ZoneGuard

def digit? (base : Nat) (c : Char) : Option Nat :=
  let value? :=
    if c.isDigit then some (c.toNat - '0'.toNat)
    else if 'a' ≤ c && c ≤ 'f' then some (c.toNat - 'a'.toNat + 10)
    else if 'A' ≤ c && c ≤ 'F' then some (c.toNat - 'A'.toNat + 10)
    else none
  value?.filter (· < base)

/-- The number that digits form, the first being the most significant. No digits form zero. -/
def ofDigits? (base : Nat) (cs : List Char) : Option Nat :=
  cs.foldlM (fun n c => (digit? base c).map (base * n + ·)) 0

def digitValue (c : Char) : Nat := c.toNat - '0'.toNat

/-- The number that characters form that are digits of the base, which is ten at most. No digits
form zero. -/
def digitsValue (base : Nat) (cs : List Char) : Nat :=
  cs.foldl (fun n c => base * n + digitValue c) 0

/-- The number below the bound that a text writes in decimal digits, perhaps after a plus sign. -/
def readBounded? (bound : Nat) (s : String) : Option Nat :=
  let digits := match s.toList with
    | '+' :: cs => cs
    | cs => cs
  if digits.isEmpty then none else (ofDigits? 10 digits).filter (· < bound)

example : readBounded? 256 "+007" = some 7 ∧ readBounded? 256 "256" = none := by decide

example : ofDigits? 16 "1F".toList = some 31 := by decide

example : ofDigits? 8 "18".toList = none := by decide

end ZoneGuard
