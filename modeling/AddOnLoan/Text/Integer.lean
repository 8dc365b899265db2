import AddOnLoan.Text.Blank
import AddOnLoan.Text.Digit

namespace AddOnLoan

inductive IntegerError where
  | malformed
  | tooLong (digits : Nat)
  deriving DecidableEq, Repr

/-- The digits of a word in which a low line may stand between two of them. -/
def readDigitWord? : List Char → Option (List Nat)
  | [] => none
  | [c] => (digitValue? c).map ([·])
  | c :: '_' :: rest => return (← digitValue? c) :: (← readDigitWord? rest)
  | c :: rest => return (← digitValue? c) :: (← readDigitWord? rest)

/-- The digits are counted before what follows them is looked at. -/
def readInteger (s : List Char) : Except IntegerError Int :=
  let (negative, word) :=
    match stripOf isNumberBlank s with
    | '-' :: rest => (true, rest)
    | '+' :: rest => (false, rest)
    | rest => (false, rest)
  let inWord (c : Char) := c == '_' || (digitValue? c).isSome
  match readDigitWord? (word.takeWhile inWord) with
  | none => .error .malformed
  | some ds =>
    if ds.length > longestNumeral then .error (.tooLong ds.length)
    else if word.all inWord then
      .ok (if negative then -(digitsValue ds : Int) else digitsValue ds)
    else .error .malformed

def readInteger? (s : List Char) : Option Int := (readInteger s).toOption

end AddOnLoan
