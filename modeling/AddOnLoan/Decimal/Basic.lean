import AddOnLoan.Decimal.Rounding
import AddOnLoan.Text.Digit

namespace AddOnLoan

/-- Two finite decimals may have one value and differ in their exponents. -/
inductive Decimal where
  | finite (negative : Bool) (coefficient : Nat) (exponent : Int)
  | infinity (negative : Bool)
  | nan (signalling : Bool) (negative : Bool) (payload : Nat)
  deriving DecidableEq, Repr

def countDigits (n : Nat) : Nat :=
  if n < 10 then 1 else countDigits (n / 10) + 1

/-- How many decimal digits a coefficient is written with; zero has one. Most digits of a long
number are told by its length in binary and need not be counted. -/
def digitCount (n : Nat) : Nat :=
  if n < 10 then 1
  else
    let known := n.log2 * 30102999566 / 100000000000
    if 10 ^ known ≤ n then countDigits (n / 10 ^ known) + known else countDigits n

theorem countDigits_of_lt {n : Nat} (h : n < 10) : countDigits n = 1 := by
  rw [countDigits, if_pos h]

theorem countDigits_of_le {n : Nat} (h : 10 ≤ n) : countDigits n = countDigits (n / 10) + 1 := by
  rw [countDigits, if_neg (by omega)]

theorem countDigits_div_pow {k n : Nat} (h : 10 ^ k ≤ n) :
    countDigits (n / 10 ^ k) + k = countDigits n := by
  induction k generalizing n with
  | zero => simp
  | succ k ih =>
    have hn : 10 ^ k ≤ n / 10 := (Nat.le_div_iff_mul_le (by omega)).2 (by rwa [← Nat.pow_succ])
    have hk : 0 < 10 ^ k := Nat.pow_pos (by omega)
    rw [countDigits_of_le (n := n) (by omega), ← ih hn, Nat.div_div_eq_div_mul, Nat.pow_succ,
      Nat.mul_comm (10 ^ k) 10, Nat.add_assoc]

theorem digitCount_eq (n : Nat) : digitCount n = countDigits n := by
  unfold digitCount
  split
  · next h => rw [countDigits_of_lt h]
  · simp only
    split
    · next h => exact countDigits_div_pow h
    · rfl

/-- The exponent of the first decimal digit of `a / b`, for positive `a` and `b`. -/
def leadingDigit (a b : Nat) : Int :=
  let k : Int := digitCount a - digitCount b
  if b * 10 ^ k.toNat ≤ a * 10 ^ (-k).toNat then k else k - 1

namespace Decimal

def ofNat (n : Nat) : Decimal := .finite false n 0

def ofInt (n : Int) : Decimal := .finite (n < 0) n.natAbs 0

def negative : Decimal → Bool
  | .finite s _ _ | .infinity s | .nan _ s _ => s

def withSign (s : Bool) : Decimal → Decimal
  | .finite _ c e => .finite s c e
  | .infinity _ => .infinity s
  | .nan k _ p => .nan k s p

def magnitude (x : Decimal) : Decimal := x.withSign false

/-- The same number with its sign turned, whatever it is; zero included. -/
def negate (x : Decimal) : Decimal := x.withSign (!x.negative)

def isFinite : Decimal → Bool
  | .finite .. => true
  | _ => false

def isZero : Decimal → Bool
  | .finite _ c _ => c == 0
  | _ => false

def signed (s : Bool) (c : Nat) : Int := if s then -(c : Int) else c

/-- Equality of value; a not-a-number equals nothing. -/
def sameValue : Decimal → Decimal → Bool
  | .finite s c e, .finite s' c' e' =>
    if e ≤ e' then signed s c == signed s' (c' * 10 ^ (e' - e).toNat)
    else signed s (c * 10 ^ (e - e').toNat) == signed s' c'
  | .infinity s, .infinity s' => s == s'
  | _, _ => false

def sign? : Decimal → Option Int
  | .finite s c _ => some (if c = 0 then 0 else if s then -1 else 1)
  | .infinity s => some (if s then -1 else 1)
  | .nan .. => none

end Decimal
end AddOnLoan
