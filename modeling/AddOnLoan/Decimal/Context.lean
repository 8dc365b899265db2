import AddOnLoan.Decimal.Basic

namespace AddOnLoan

inductive Signal where
  | invalidOperation
  | divisionByZero
  | overflow
  deriving DecidableEq, Repr

/-- The magnitude `a / b` as a whole number of units `10 ^ shift`. -/
def Rounding.units (mode : Rounding) (negative : Bool) (a b : Nat) (shift : Int) : Nat :=
  if shift ≤ 0 then mode.quotient negative (a * 10 ^ shift.natAbs) b
  -- such a magnitude is below a tenth of a unit, so the unit itself need not be written down
  else if digitCount a < shift then mode.speck negative
  else mode.quotient negative a (b * 10 ^ shift.natAbs)

/-- Arithmetic at a fixed number of significant digits. Results are taken exactly and then rounded
once; one that no number in range can stand for is refused with a signal. -/
structure Context where
  precision : Nat
  rounding : Rounding
  deriving DecidableEq, Repr

namespace Context

def emax : Int := 999999

def etiny (ctx : Context) : Int := -999999 - ctx.precision + 1

/-- A rounded magnitude as a decimal, once a carry into one digit too many has been dropped. -/
def settle (ctx : Context) (negative : Bool) (coefficient : Nat) (exponent : Int) :
    Except Signal Decimal :=
  let carried := digitCount coefficient > ctx.precision
  let c := if carried then coefficient / 10 else coefficient
  let e := if carried then exponent + 1 else exponent
  if e + digitCount c - 1 > emax then .error .overflow else .ok (.finite negative c e)

/-- Brings an exact number within precision and range, rounding at most once. -/
def round (ctx : Context) (negative : Bool) (coefficient : Nat) (exponent : Int) :
    Except Signal Decimal :=
  if coefficient = 0 then .ok (.finite negative 0 (max ctx.etiny (min exponent emax)))
  else
    let grid := max (max exponent (exponent + digitCount coefficient - ctx.precision)) ctx.etiny
    ctx.settle negative (ctx.rounding.units negative coefficient 1 (grid - exponent)) grid

/-- A not-a-number among the operands decides the result: a signalling one is an error, a quiet
one is handed on with the digits of its payload that fit. -/
def special (ctx : Context) (x : Decimal) : Option (Except Signal Decimal) :=
  match x with
  | .nan true _ _ => some (.error .invalidOperation)
  | .nan false s payload =>
    some (.ok (.nan false s
      (if digitCount payload ≤ ctx.precision then payload else payload % 10 ^ ctx.precision)))
  | _ => none

def special₂ (ctx : Context) (x y : Decimal) : Option (Except Signal Decimal) :=
  match x, y with
  | _, .nan true _ _ => some (.error .invalidOperation)
  | x, y => (ctx.special x).or (ctx.special y)

/-- The exact sum of two finite numbers, written at the smaller exponent. A zero sum is negative
if both operands are, or if the direction is downward and one of them is. -/
def addFinite (ctx : Context) (s : Bool) (c : Nat) (e : Int) (s' : Bool) (c' : Nat) (e' : Int) :
    Except Signal Decimal :=
  let low := min e e'
  let total := Decimal.signed s (c * 10 ^ (e - low).toNat) +
    Decimal.signed s' (c' * 10 ^ (e' - low).toNat)
  let negative :=
    if total = 0 then (s && s') || (ctx.rounding == .floor && (s || s')) else total < 0
  ctx.round negative total.natAbs low

def add (ctx : Context) (x y : Decimal) : Except Signal Decimal :=
  match ctx.special₂ x y, x, y with
  | some r, _, _ => r
  | none, .finite s c e, .finite s' c' e' => ctx.addFinite s c e s' c' e'
  | none, .infinity s, .infinity s' => if s = s' then .ok x else .error .invalidOperation
  | none, .infinity _, _ => .ok x
  | none, _, _ => .ok y

def subtrahend : Decimal → Decimal
  | .nan k s p => .nan k s p
  | y => y.negate

def sub (ctx : Context) (x y : Decimal) : Except Signal Decimal :=
  ctx.add x (subtrahend y)

def mul (ctx : Context) (x y : Decimal) : Except Signal Decimal :=
  match ctx.special₂ x y, x, y with
  | some r, _, _ => r
  | none, .finite s c e, .finite s' c' e' => ctx.round (s != s') (c * c') (e + e')
  | none, .infinity _, .finite _ 0 _ | none, .finite _ 0 _, .infinity _ =>
    .error .invalidOperation
  | none, x, y => .ok (.infinity (x.negative != y.negative))

/-- Drops trailing zeros of a coefficient, but no more than `most` of them; the second part
counts those dropped. -/
def dropZeros : Nat → Nat → Nat × Nat
  | 0, c => (c, 0)
  | most + 1, c =>
    if c % 10 = 0 then
      let (c', dropped) := dropZeros most (c / 10)
      (c', dropped + 1)
    else (c, 0)

def quotientDigits (a b : Nat) : Nat := digitCount a + 4 * digitCount b

/-- The quotient of two positive magnitudes times `10 ^ ideal`. An exact quotient is written as
near to the exponent `ideal` as it can be, any other has all digits the precision allows. -/
def divPositive (ctx : Context) (negative : Bool) (a b : Nat) (ideal : Int) :
    Except Signal Decimal :=
  let top := ideal + leadingDigit a b + 1
  -- whether the quotient is exact shows within these digits, however many more are allowed
  let near := max (top - min ctx.precision (quotientDigits a b)) ctx.etiny
  let c := ctx.rounding.units negative a b (near - ideal)
  if near ≤ ideal ∧ a * 10 ^ (ideal - near).toNat = c * b then
    let (c', dropped) := dropZeros (ideal - near).toNat c
    ctx.settle negative c' (near + dropped)
  else
    let grid := max (top - ctx.precision) ctx.etiny
    ctx.settle negative (ctx.rounding.units negative a b (grid - ideal)) grid

def div (ctx : Context) (x y : Decimal) : Except Signal Decimal :=
  match ctx.special₂ x y, x, y with
  | some r, _, _ => r
  | none, .infinity _, .infinity _ => .error .invalidOperation
  | none, .infinity s, y => .ok (.infinity (s != y.negative))
  | none, x, .infinity s => .ok (.finite (x.negative != s) 0 ctx.etiny)
  | none, .finite _ 0 _, .finite _ 0 _ => .error .invalidOperation
  | none, .finite _ _ _, .finite _ 0 _ => .error .divisionByZero
  | none, .finite s c e, .finite s' c' e' =>
    if c = 0 then ctx.round (s != s') 0 (e - e')
    else ctx.divPositive (s != s') c c' (e - e')
  | none, x, _ => .ok x

/-- The number moved to the given exponent. It fails if the coefficient would be longer than the
precision, and on an infinity; a quiet not-a-number stays. -/
def quantize (ctx : Context) (x : Decimal) (exponent : Int) : Except Signal Decimal :=
  match ctx.special x, x with
  | some r, _ => r
  | none, .finite s c e =>
    if c = 0 then .ok (.finite s 0 exponent)
    else if digitCount c + e - exponent > ctx.precision then .error .invalidOperation
    else
      let moved := ctx.rounding.units s c 1 (exponent - e)
      if digitCount moved > ctx.precision then .error .invalidOperation
      else .ok (.finite s moved exponent)
  | none, _ => .error .invalidOperation

end Context

namespace Decimal

def order0 (x : Decimal) : Except Signal Int :=
  match x.sign? with
  | some s => .ok s
  | none => .error .invalidOperation

/-- Whether a number is zero. A quiet not-a-number is not, a signalling one is an error. -/
def equals0 : Decimal → Except Signal Bool
  | .finite _ c _ => .ok (c = 0)
  | .infinity _ => .ok false
  | .nan signalling _ _ => if signalling then .error .invalidOperation else .ok false

end Decimal
end AddOnLoan
