import AddOnLoan.Decimal.Text
import AddOnLoan.Text.Blank

namespace AddOnLoan

/-- A binary floating-point number of 64 bits, as a mantissa times a power of two. -/
inductive Binary64 where
  | finite (negative : Bool) (mantissa : Nat) (exponent : Int)
  | infinity (negative : Bool)
  | nan
  deriving DecidableEq, Repr

namespace Binary64

def leadingBit (a b : Nat) : Int :=
  let k : Int := a.log2 - b.log2
  if b * 2 ^ k.toNat ≤ a * 2 ^ (-k).toNat then k else k - 1

/-- The number nearest to `a / b`, for positive `a` and `b`; of two the one with even mantissa. -/
def nearestQuotient (negative : Bool) (a b : Nat) : Binary64 :=
  let e := max (leadingBit a b - 52) (-1074)
  let m := Rounding.halfEven.quotient negative (a * 2 ^ (-e).toNat) (b * 2 ^ e.toNat)
  let carried := m = (2 : Nat) ^ (53 : Nat)
  let m := if carried then (2 : Nat) ^ (52 : Nat) else m
  let e := if carried then e + 1 else e
  if e > 971 then .infinity negative else .finite negative m e

def zero (negative : Bool) : Binary64 := .finite negative 0 (-1074)

def nearest (negative : Bool) (coefficient : Nat) (power : Int) : Binary64 :=
  let size := digitCount coefficient + power
  if coefficient = 0 ∨ size < -330 then zero negative
  else if size > 310 then .infinity negative
  else nearestQuotient negative (coefficient * 10 ^ power.toNat) (10 ^ (-power).toNat)

/-- The first decimal with at most `count + 1, count + 2, …` digits, `tries` counts in all, that
reads back to the number `m * 2 ^ e`: of the two neighbours on a grid of digits the nearer, of two
equally near the even one, and the other if the first does not read back. -/
def shortestFrom (m : Nat) (e : Int) (count : Nat) : Nat → Nat × Int
  | 0 => (m, 0)
  | tries + 1 =>
    let a := m * 2 ^ e.toNat
    let b := 2 ^ (-e).toNat
    let power := leadingDigit a b - count
    let a' := a * 10 ^ (-power).toNat
    let b' := b * 10 ^ power.toNat
    let near := Rounding.halfEven.quotient false a' b'
    let far := if near = a' / b' then near + 1 else a' / b'
    let readsBack (c : Nat) := nearest false c power == .finite false m e
    if readsBack near then (near, power)
    else if readsBack far then (far, power)
    else shortestFrom m e (count + 1) tries

def shortest (m : Nat) (e : Int) : Nat × Int := shortestFrom m e 0 17

/-- The fewest digits that read back: with a point and at least one place behind it for numbers
from a ten-thousandth up to 10 ^ 16, else with a signed power of at least two digits. -/
def finiteText (m : Nat) (e : Int) : List Char :=
  if m = 0 then "0.0".toList
  else
    let (c, power) := shortest m e
    let ds := dropTrailing (· == '0') (digits c)
    let lead := power + (digits c).length - 1
    if lead < -4 ∨ 16 ≤ lead then
      let size := digits lead.natAbs
      ds.take 1 ++ (if ds.length ≤ 1 then [] else '.' :: ds.drop 1) ++
        'e' :: (if lead < 0 then '-' else '+') :: (if size.length < 2 then '0' :: size else size)
    else if lead < 0 then
      '0' :: '.' :: List.replicate (-lead - 1).toNat '0' ++ ds
    else
      let whole := (lead + 1).toNat
      let padded := ds ++ List.replicate (whole - ds.length) '0'
      padded.take whole ++ '.' :: (if padded.length ≤ whole then ['0'] else padded.drop whole)

def text : Binary64 → String
  | .finite negative m e => (if negative then "-" else "") ++ String.ofList (finiteText m e)
  | .infinity negative => if negative then "-inf" else "inf"
  | .nan => "nan"

def truncate? : Binary64 → Option Int
  | .finite negative m e =>
    some (Decimal.signed negative (m * 2 ^ e.toNat / 2 ^ (-e).toNat))
  | _ => none

def isBelow : Binary64 → Int → Bool
  | .finite negative m e, n =>
    decide (Decimal.signed negative (m * 2 ^ e.toNat) < n * 2 ^ (-e).toNat)
  | .infinity negative, _ => negative
  | .nan, _ => false

def isZero : Binary64 → Bool
  | .finite _ m _ => m == 0
  | _ => false

end Binary64
end AddOnLoan
