import ZoneGuard.Numeric.Decimal
import ZoneGuard.Numeric.Digit

/-!
# Rounded decimals

Decimal text of binary numbers with a given number of places. The exact value is rounded to the
nearest decimal with so many places, and a tie goes to the even digit. Reading takes the longest
beginning of a text that is a decimal numeral.
-/

namespace ZoneGuard.Decimal

/-- The integer nearest to a quotient, and of two the even one. -/
def nearestTo (num den : Nat) : Nat :=
  let q := num / den
  let r := num % den
  if den < 2 * r || (2 * r == den && q % 2 == 1) then q + 1 else q

/-- The digits of a number cut in front of the last ones, with a point there if any follow. -/
def withPoint (places n : Nat) : List Char :=
  let digits := Nat.toDigits 10 n
  let digits := List.replicate (places + 1 - digits.length) '0' ++ digits
  let whole := digits.take (digits.length - places)
  if places = 0 then whole else whole ++ '.' :: digits.drop whole.length

def fixedText (places : Nat) (x : Binary64) : List Char :=
  let (num, den) := x.toQuotient
  withPoint places (nearestTo (num * Nat.pow 10 places) den)

/-- The magnitude as a number with one digit before the point and so many places, without the point,
and the power of ten that belongs to it. -/
def scientific (places : Nat) (x : Binary64) : Nat × Int :=
  if x.isZero then (0, 0)
  else
    let (num, den) := x.toQuotient
    let p := leadingExponent num den
    let shift : Int := places - p
    let n := nearestTo (num * Nat.pow 10 shift.toNat) (den * Nat.pow 10 (-shift).toNat)
    if n = Nat.pow 10 (places + 1) then (n / 10, p + 1) else (n, p)

/-- An exponent with its sign and at least two digits. -/
def exponentText (e : Int) : List Char :=
  let digits := Nat.toDigits 10 e.natAbs
  'e' :: (if e < 0 then '-' else '+') :: (List.replicate (2 - digits.length) '0' ++ digits)

/-- The magnitude with one digit before the point, so many places and an exponent. -/
def scientificText (places : Nat) (x : Binary64) : List Char :=
  let (n, e) := scientific places x
  withPoint places n ++ exponentText e

/-- The text without zeros at the end of its places, and without the point if none are left. -/
def withoutEndZeros (text : List Char) : List Char :=
  if text.contains '.' then
    let cut := text.reverse.dropWhile (· == '0')
    (if cut.head? == some '.' then cut.drop 1 else cut).reverse
  else text

/-- The magnitude with so many significant digits: with an exponent if that is below -4 or not below
the number of digits, and else without one. Zeros at the end are kept or not. -/
def generalText (keepsZeros : Bool) (digits : Nat) (x : Binary64) : List Char :=
  let digits := max 1 digits
  let (n, e) := scientific (digits - 1) x
  let strip (text : List Char) := if keepsZeros then text else withoutEndZeros text
  if e < -4 || (digits : Int) ≤ e then strip (withPoint (digits - 1) n) ++ exponentText e
  else strip (fixedText ((digits : Int) - 1 - e).toNat x)

/-- The decimal numeral at the beginning of a text without a sign, as a quotient, and what follows
it. -/
def numeralAt? (cs : List Char) : Option ((Nat × Nat) × List Char) :=
  let whole := cs.takeWhile Char.isDigit
  let rest := cs.drop whole.length
  let fraction := match rest with
    | '.' :: rest => rest.takeWhile Char.isDigit
    | _ => []
  let rest := match rest with
    | '.' :: _ =>
      if whole.isEmpty && fraction.isEmpty then rest else rest.drop (fraction.length + 1)
    | _ => rest
  if whole.isEmpty && fraction.isEmpty then none
  else
    let (exponent, rest) := exponentAt rest
    let n := digitsValue 10 (whole ++ fraction)
    let e := exponent - fraction.length
    some ((n * Nat.pow 10 e.toNat, Nat.pow 10 (-e).toNat), rest)
where
  /-- The exponent at the beginning, which is bounded, and what follows it. -/
  exponentAt (cs : List Char) : Int × List Char :=
    match cs with
    | mark :: rest =>
      let (isNegative, signs) := match rest with
        | '-' :: _ => (true, 1)
        | '+' :: _ => (false, 1)
        | _ => (false, 0)
      let digits := (rest.drop signs).takeWhile Char.isDigit
      if (mark == 'e' || mark == 'E') && !digits.isEmpty then
        let n : Int := min 2000 (digitsValue 10 digits)
        (if isNegative then -n else n, rest.drop (signs + digits.length))
      else (0, cs)
    | [] => (0, [])

example : String.ofList (withPoint 2 5) = "0.05" := by decide +kernel

example : nearestTo 5 2 = 2 ∧ nearestTo 7 2 = 4 ∧ nearestTo 8 3 = 3 := by decide

end ZoneGuard.Decimal
