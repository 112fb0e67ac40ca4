import ZoneGuard.Numeric.Binary64

/-!
# Decimal text of numbers

The shortest decimal of a binary number: of the decimals that round to it, one with the fewest
digits, and of those the nearest. It is written positionally from `0.00001` up to below `10 ^ 16`,
with at least one digit after the point, and otherwise with an exponent that always has its sign.
Reading of natural numbers is strict: digits only, after an optional plus sign.
-/

namespace ZoneGuard.Decimal

/-- A decimal `digits * 10 ^ exponent`. -/
structure Scaled where
  digits : Nat
  exponent : Int
deriving DecidableEq, Repr

/-- The interval of the reals that round to a positive number, in quarters of the unit in the last
place: the lower end, the number itself and the upper end. -/
def neighbourhood (x : Binary64) : Nat × Nat × Nat :=
  let n := 4 * x.significand
  let below := if x.significand == 1 <<< 52 && x.exponent > -1074 then 1 else 2
  (n - below, n, n + 2)

/-- The largest `p` with `10 ^ p ≤ num / den`, for a positive quotient. -/
def leadingExponent (num den : Nat) : Int :=
  if den ≤ num then ((Nat.toDigits 10 (num / den)).length : Int) - 1
  else -(below 400 1 num : Int)
where
  /-- The least number of places to move the point until the quotient is at least one. -/
  below : Nat → Nat → Nat → Nat
    | 0, places, _ => places
    | steps + 1, places, num =>
      if den ≤ 10 * num then places else below steps (places + 1) (10 * num)

/-- The decimal with the grid `10 ^ grid` that lies in the interval of `x` and is nearest to it. Of
the grid only the two neighbours of `x` can be nearest. -/
def onGrid? (x : Binary64) (grid : Int) : Option Scaled :=
  let (low, mid, high) := neighbourhood x
  let q := x.exponent - 2
  let num := Nat.pow 10 (-grid).toNat <<< q.toNat
  let den := Nat.pow 10 grid.toNat <<< (-q).toNat
  let inside (c : Nat) : Bool :=
    if x.significand % 2 == 0 then low * num ≤ c * den && c * den ≤ high * num
    else low * num < c * den && c * den < high * num
  let below := mid * num / den
  let distance (c : Nat) : Nat := (c * den - mid * num) + (mid * num - c * den)
  match inside below, inside (below + 1) with
  | true, true =>
    let upper := distance (below + 1) < distance below
      || (distance (below + 1) == distance below && below % 2 == 1)
    some ⟨if upper then below + 1 else below, grid⟩
  | true, false => some ⟨below, grid⟩
  | false, true => some ⟨below + 1, grid⟩
  | false, false => none

/-- The decimal without trailing zeros among its digits. -/
def Scaled.strip (s : Scaled) : Scaled :=
  go 20 s
where
  /-- Removes at most as many zeros as there can be digits. -/
  go : Nat → Scaled → Scaled
    | 0, s => s
    | steps + 1, s =>
      if s.digits != 0 && s.digits % 10 == 0 then go steps ⟨s.digits / 10, s.exponent + 1⟩ else s

/-- The shortest decimal of a positive number. Seventeen digits are always enough. -/
def shortest (x : Binary64) : Scaled :=
  let (num, den) := x.toQuotient
  let p := leadingExponent num den
  let candidate? := (List.range 17).findSome? fun (k : Nat) => onGrid? x (p - k)
  (candidate?.getD ⟨num / den, 0⟩).strip

def floatText (x : Binary64) : String :=
  let sign := if x.negative then "-" else ""
  if x.isZero then sign ++ "0.0"
  else
    let s := shortest x
    let digits := Nat.toDigits 10 s.digits
    let count := digits.length
    let e : Int := s.exponent + count - 1
    let body :=
      if -5 ≤ e && e < 0 then
        ['0', '.'] ++ List.replicate ((-e).toNat - 1) '0' ++ digits
      else if 0 ≤ e && e < 16 then
        let whole := e.toNat + 1
        if count ≤ whole then digits ++ List.replicate (whole - count) '0' ++ ['.', '0']
        else digits.take whole ++ ['.'] ++ digits.drop whole
      else
        let mantissa :=
          match digits with
          | [] => []
          | [d] => [d]
          | d :: ds => d :: '.' :: ds
        mantissa ++ ['e', if e < 0 then '-' else '+'] ++ Nat.toDigits 10 e.natAbs
    sign ++ String.ofList body

end ZoneGuard.Decimal
