namespace AddOnLoan

inductive Rounding where
  /-- Away from zero. -/
  | up
  /-- Toward zero. -/
  | down
  | ceiling
  | floor
  /-- To the nearer neighbour, a half away from zero. -/
  | halfUp
  /-- To the nearer neighbour, a half toward zero. -/
  | halfDown
  /-- To the nearer neighbour, a half to the even one. -/
  | halfEven
  /-- Toward zero, unless that leaves a last digit of 0 or 5. -/
  | zeroFiveUp
  deriving DecidableEq, Repr

inductive Tail where
  | exact
  | belowHalf
  | half
  | aboveHalf
  deriving DecidableEq, Repr

def Tail.ofRemainder (r d : Nat) : Tail :=
  if r = 0 then .exact
  else if 2 * r < d then .belowHalf
  else if 2 * r = d then .half
  else .aboveHalf

namespace Rounding

/-- Whether the magnitude `q` with a nonempty tail moves up to `q + 1`. -/
def away (mode : Rounding) (negative : Bool) (q : Nat) (tail : Tail) : Bool :=
  match mode, tail with
  | _, .exact => false
  | .up, _ => true
  | .down, _ => false
  | .ceiling, _ => !negative
  | .floor, _ => negative
  | .halfUp, t => t != .belowHalf
  | .halfDown, t => t == .aboveHalf
  | .halfEven, t => t == .aboveHalf || (t == .half && q % 2 == 1)
  | .zeroFiveUp, _ => q % 5 == 0

def quotient (mode : Rounding) (negative : Bool) (n d : Nat) : Nat :=
  if mode.away negative (n / d) (.ofRemainder (n % d) d) then n / d + 1 else n / d

/-- A magnitude far below half a unit, which only the outward directions keep from vanishing. -/
def speck (mode : Rounding) (negative : Bool) : Nat :=
  if mode.away negative 0 .belowHalf then 1 else 0

end Rounding
end AddOnLoan
