import AddOnLoan.Text.Basic

namespace AddOnLoan

/-- Besides the spaces, tabs and line ends these are the four information separators of ASCII. -/
def isBlank (c : Char) : Bool :=
  let n := c.toNat
  (0x9 ≤ n && n ≤ 0xd) || (0x1c ≤ n && n ≤ 0x20) || n == 0x85 || n == 0xa0 || n == 0x1680 ||
    (0x2000 ≤ n && n ≤ 0x200a) || n == 0x2028 || n == 0x2029 || n == 0x202f || n == 0x205f ||
    n == 0x3000

/-- A blank that the reader of whole numbers passes over: all but the information separators. -/
def isNumberBlank (c : Char) : Bool :=
  isBlank c && !(0x1c ≤ c.toNat && c.toNat ≤ 0x1f)

def dropTrailing (p : α → Bool) (s : List α) : List α :=
  (s.reverse.dropWhile p).reverse

def stripOf (p : α → Bool) (s : List α) : List α :=
  dropTrailing p (s.dropWhile p)

def strip (s : List Char) : List Char := stripOf isBlank s

def CodePoint.isBlank : CodePoint → Bool
  | .char c => AddOnLoan.isBlank c
  | .half _ => false

namespace Text

def strip (t : Text) : Text := ofPoints (stripOf CodePoint.isBlank t.points)

def dropTrailingBlanks (t : Text) : Text := ofPoints (dropTrailing CodePoint.isBlank t.points)

end Text

end AddOnLoan
