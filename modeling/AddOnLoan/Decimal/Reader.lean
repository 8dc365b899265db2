import AddOnLoan.Decimal.Basic
import AddOnLoan.Text.Blank
import AddOnLoan.Text.Digit

namespace AddOnLoan
namespace Decimal

/-- The text that is read: no blanks around it, no low lines, and ASCII digits. It is none if
another character beyond ASCII is left. -/
def normalized? (s : List Char) : Option (List Char) :=
  ((strip s).filter (· != '_')).mapM fun c =>
    if c.toNat < 128 then some c
    else (digitValue? c).map fun d => Char.ofNat ('0'.toNat + d)

def spanDigits (s : List Char) : List Nat × List Char :=
  ((s.takeWhile Char.isDigit).filterMap asciiDigit?, s.dropWhile Char.isDigit)

def readSign : List Char → Bool × List Char
  | '-' :: rest => (true, rest)
  | '+' :: rest => (false, rest)
  | rest => (false, rest)

/-- The power of ten behind the digits; an empty rest stands for the power zero. -/
def readPower? : List Char → Option Int
  | [] => some 0
  | mark :: rest =>
    if mark = 'e' ∨ mark = 'E' then
      let (negative, rest) := readSign rest
      let (ds, rest) := spanDigits rest
      if ds.isEmpty ∨ !rest.isEmpty then none
      else some (signed negative (digitsValue ds))
    else none

def readNumber? (negative : Bool) (s : List Char) : Option Decimal := do
  let (whole, rest) := spanDigits s
  let (part, rest) :=
    match rest with
    | '.' :: rest => spanDigits rest
    | rest => ([], rest)
  if whole.isEmpty && part.isEmpty then none
  let power ← readPower? rest
  return .finite negative (digitsValue (whole ++ part)) (power - part.length)

def readWord? (negative : Bool) (s : List Char) : Option Decimal :=
  let word := s.map Char.toLower
  let payload? (signalling : Bool) (rest : List Char) : Option Decimal :=
    let (ds, rest) := spanDigits rest
    if rest.isEmpty then some (.nan signalling negative (digitsValue ds)) else none
  if word = "inf".toList ∨ word = "infinity".toList then some (.infinity negative)
  else match word with
    | 'n' :: 'a' :: 'n' :: rest => payload? false rest
    | 's' :: 'n' :: 'a' :: 'n' :: rest => payload? true rest
    | _ => none

/-- Numbers beyond these exponents are not read: the first bounds the place of the first digit,
the second the place of the last. -/
def readable : Decimal → Bool
  | .finite _ c e => decide (e + digitCount c - 1 ≤ 999999999999999999) &&
      decide (-1999999999999999997 ≤ e)
  | _ => true

/-- An optional sign, then digits with an optional point and an optional power of ten, or one of the
words. Digits of all scripts count, low lines between them are overlooked, and nothing is rounded.
-/
def read? (s : List Char) : Option Decimal := do
  let (negative, body) := readSign (← normalized? s)
  let x ← (readNumber? negative body).or (readWord? negative body)
  if readable x then some x else none

end Decimal
end AddOnLoan
