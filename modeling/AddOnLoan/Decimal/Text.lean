import AddOnLoan.Decimal.Basic

namespace AddOnLoan

def digitChar (d : Nat) : Char := Char.ofNat ('0'.toNat + d)

def digitsOnto (n : Nat) (rest : List Char) : List Char :=
  if n < 10 then digitChar n :: rest else digitsOnto (n / 10) (digitChar (n % 10) :: rest)

def digits (n : Nat) : List Char := digitsOnto n []

theorem digitsOnto_eq (n : Nat) (rest : List Char) : digitsOnto n rest = digits n ++ rest := by
  induction n using Nat.strongRecOn generalizing rest with
  | ind n ih =>
    have step (r : List Char) : digitsOnto n r =
        if n < 10 then digitChar n :: r else digitsOnto (n / 10) (digitChar (n % 10) :: r) := by
      rw [digitsOnto]
    rw [digits, step, step []]
    split
    · rfl
    · rw [ih (n / 10) (by omega), ih (n / 10) (by omega) [_], List.append_assoc]
      rfl

theorem digits_of_lt {n : Nat} (h : n < 10) : digits n = [digitChar n] := by
  rw [digits, digitsOnto, if_pos h]

theorem digits_of_le {n : Nat} (h : 10 ≤ n) :
    digits n = digits (n / 10) ++ [digitChar (n % 10)] := by
  rw [digits, digitsOnto, if_neg (by omega), digitsOnto_eq]

def natText (n : Nat) : String := String.ofList (digits n)

def intText (n : Int) : String :=
  if n < 0 then "-" ++ natText n.natAbs else natText n.natAbs

/-- Whether a whole number has no more digits than are written. -/
def fitsNumeral (n : Int) : Bool := digitCount n.natAbs ≤ longestNumeral

def longNumeralText : String :=
  "Exceeds the limit (4300 digits) for integer string conversion; " ++
    "use sys.set_int_max_str_digits() to increase the limit"

namespace Decimal

/-- Digits with a point before the last `places` of them, filled up with zeros on the left. -/
def pointed (ds : List Char) (places : Nat) : List Char :=
  let ds := List.replicate (places + 1 - ds.length) '0' ++ ds
  ds.take (ds.length - places) ++ '.' :: ds.drop (ds.length - places)

def scientific (ds : List Char) (adjusted : Int) : List Char :=
  ds.take 1 ++ (if ds.length ≤ 1 then [] else '.' :: ds.drop 1) ++
    'E' :: (if adjusted < 0 then '-' else '+') :: digits adjusted.natAbs

def finiteText (coefficient : Nat) (exponent : Int) : List Char :=
  let ds := digits coefficient
  let adjusted := exponent + (ds.length - 1 : Int)
  if exponent > 0 ∨ adjusted < -6 then scientific ds adjusted
  else if exponent = 0 then ds
  else pointed ds exponent.natAbs

/-- The exponent is written out when it is positive or when the number is below one millionth. -/
def text (x : Decimal) : String :=
  let signMark := if x.negative then "-" else ""
  signMark ++ match x with
    | .finite _ c e => String.ofList (finiteText c e)
    | .infinity _ => "Infinity"
    | .nan signalling _ payload =>
      (if signalling then "sNaN" else "NaN") ++ (if payload = 0 then "" else natText payload)

end Decimal
end AddOnLoan
