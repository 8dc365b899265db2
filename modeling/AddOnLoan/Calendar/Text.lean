import AddOnLoan.Calendar.Date
import AddOnLoan.Decimal.Text
import AddOnLoan.Text.Blank
import AddOnLoan.Text.Digit

namespace AddOnLoan
namespace Date

def padded (width n : Nat) : List Char :=
  List.replicate (width - (digits n).length) '0' ++ digits n

def isoChars (d : Date) : List Char :=
  padded 4 d.year ++ '-' :: padded 2 d.month ++ '-' :: padded 2 d.day

def iso (d : Date) : String := String.ofList d.isoChars

def digitIn? (low high : Nat) (c : Char) : Option Nat :=
  (asciiDigit? c).filter fun n => low ≤ n && n ≤ high

def readMonth? : List Char → Option Nat
  | [c] => digitIn? 1 9 c
  | [c, c'] =>
    if c = '1' then (digitIn? 0 2 c').map (10 + ·)
    else if c = '0' then digitIn? 1 9 c'
    else none
  | _ => none

/-- The second digit of a day from 10 to 29 may be of any script. -/
def readDay? : List Char → Option Nat
  | [c] => digitIn? 1 9 c
  | [c, c'] =>
    if c = '3' then (digitIn? 0 1 c').map (30 + ·)
    else if c = '1' then (digitValue? c').map (10 + ·)
    else if c = '2' then (digitValue? c').map (20 + ·)
    else if c = '0' ∨ c = ' ' then digitIn? 1 9 c'
    else none
  | _ => none

def readBare? : List Char → Option Date
  | a :: b :: c :: d :: '-' :: rest => do
    let year ← [a, b, c, d].mapM digitValue?
    let month ← readMonth? (rest.takeWhile (· != '-'))
    match rest.dropWhile (· != '-') with
    | '-' :: rest =>
      let day ← readDay? rest
      of? (digitsValue year) month day
    | _ => none
  | _ => none

def read? (s : List Char) : Option Date := readBare? (strip s)

end Date

def CalendarError.message : CalendarError → String
  | .yearOutOfRange year => "year " ++ intText year ++ " is out of range"
  | .yearTooLong year =>
    if year < -9223372036854775808 ∨ 9223372036854775807 < year then
      "Python int too large to convert to C long"
    else if year < 0 then "signed integer is less than minimum"
    else "signed integer is greater than maximum"
  | .dateOutOfRange => "date value out of range"
  | .tooManyDays days =>
    if days < -2147483648 ∨ 2147483647 < days then "Python int too large to convert to C int"
    else "days=" ++ intText days ++ "; must have magnitude <= 999999999"

end AddOnLoan
