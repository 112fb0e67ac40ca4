/-!
# Binary floating point with 53 significant bits

Finite numbers of the 64-bit binary format as a sign, a significand and a power of two. A quotient
of natural numbers is rounded to the nearest of them, and a tie goes to the even significand. Every
operation is exact arithmetic on natural numbers followed by one rounding.
-/

namespace ZoneGuard

/-- The number `± significand * 2 ^ exponent`. The rounding below yields significands under `2 ^ 53`
and exponents from -1074 to 971. -/
structure Binary64 where
  negative : Bool
  significand : Nat
  exponent : Int
deriving DecidableEq, Repr

namespace Binary64

def zero : Binary64 := ⟨false, 0, -1074⟩

def isZero (x : Binary64) : Bool := x.significand == 0

/-- The power of two that gives the quotient 53 significant bits or fewer, or the least one. -/
def quotientExponent (num den : Nat) : Int :=
  let guess : Int := (num.log2 : Int) - den.log2 - 53
  let enough (e : Int) : Bool :=
    num <<< (-e).toNat < (den <<< e.toNat) <<< 53
  let e := if enough guess then guess else guess + 1
  max (-1074) e

/-- The positive number nearest to `num / den`, ties to the even significand, or `none` if it is too
large for the format. -/
def ofQuotient? (num den : Nat) : Option Binary64 :=
  if num = 0 then some zero
  else
    let e := quotientExponent num den
    let n := num <<< (-e).toNat
    let d := den <<< e.toNat
    let q := n / d
    let r := n % d
    let q := if 2 * r > d || (2 * r == d && q % 2 == 1) then q + 1 else q
    let (q, e) := if q == 1 <<< 53 then (1 <<< 52, e + 1) else (q, e)
    if e > 971 then none else some ⟨false, q, e⟩

def toQuotient (x : Binary64) : Nat × Nat :=
  (x.significand <<< x.exponent.toNat, 1 <<< (-x.exponent).toNat)

def mul? (x y : Binary64) : Option Binary64 :=
  let (n, d) := x.toQuotient
  let (m, c) := y.toQuotient
  ofQuotient? (n * m) (d * c)

def div? (x y : Binary64) : Option Binary64 :=
  let (n, d) := x.toQuotient
  let (m, c) := y.toQuotient
  ofQuotient? (n * c) (d * m)

/-- The number nearest to `10 ^ n`, for `n` up to 308. -/
def powerOfTen (n : Nat) : Binary64 :=
  (ofQuotient? (Nat.pow 10 n) 1).getD zero

/-- The magnitude of a numeral with the digits `significand` and the decimal exponent `exponent`.
The digits are rounded first and scaled after that, by one power of ten where one up to 308 is
enough, and else by divisions by `10 ^ 308`, each step rounded. It is `none` where a step is too
large. -/
def ofNumeral? (significand : Nat) (exponent : Int) : Option Binary64 :=
  match ofQuotient? significand 1 with
  | none => none
  | some x => scale (exponent.natAbs / 308 + 1) x exponent
where
  /-- Each step but the last takes 308 off a negative exponent, so `steps` bounds their number. -/
  scale : Nat → Binary64 → Int → Option Binary64
    | 0, x, _ => some x
    | steps + 1, x, e =>
      if e.natAbs ≤ 308 then
        if 0 ≤ e then x.mul? (powerOfTen e.natAbs) else x.div? (powerOfTen e.natAbs)
      else if x.isZero then some x
      else if 0 ≤ e then none
      else
        match x.div? (powerOfTen 308) with
        | none => none
        | some x => scale steps x (e + 308)

example : ofNumeral? 5 (-324) = some ⟨false, 1, -1074⟩ := by decide +kernel

example : ofNumeral? 1 309 = none := by decide +kernel

end Binary64

end ZoneGuard
