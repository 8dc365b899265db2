import AddOnLoan.Text.Basic
import AddOnLoan.Text.CaseTable

namespace AddOnLoan

def lowerLetter (c : Char) : Char :=
  let run := lowerRuns.find? fun r =>
    r.first ≤ c.toNat && c.toNat ≤ r.last && (c.toNat - r.first) % r.step == 0
  match run with
  | some r => Char.ofNat (c.toNat + r.shift).toNat
  | none => c

/-- A sigma takes its final shape behind a letter and not in front of one. -/
def endsWord (before after : List Char) : Bool :=
  let beside (s : List Char) :=
    ((s.dropWhile (inRanges caseIgnorableRanges)).take 1).any (inRanges casedRanges)
  beside before && !beside after

/-- The small form of a text whose characters before it are given in reverse. -/
def lowerAfter (before : List Char) : List Char → List Char
  | [] => []
  | c :: rest =>
    (if c = 'Σ' then [if endsWord before rest then 'ς' else 'σ']
      else if c = 'İ' then ['i', '\u0307']
      else [lowerLetter c]) ++ lowerAfter (c :: before) rest

/-- The small form of a text, exact for every letter. Capitals and folded letters are only compared
with ASCII words, so only the letters that turn into ASCII are known there. -/
def lower (s : List Char) : List Char := lowerAfter [] s

/-- The small form of a text. A half is no letter, so a word ends at it as at the end of a text. -/
def Text.lower (t : Text) : Text := t.mapPlain AddOnLoan.lower

def asciiCapital (c : Char) : List Char :=
  match c with
  | 'ı' => ['I']
  | 'ſ' => ['S']
  | 'ß' => ['S', 'S']
  | 'ﬀ' => ['F', 'F']
  | 'ﬁ' => ['F', 'I']
  | 'ﬂ' => ['F', 'L']
  | 'ﬃ' => ['F', 'F', 'I']
  | 'ﬄ' => ['F', 'F', 'L']
  | 'ﬅ' | 'ﬆ' => ['S', 'T']
  | c => [c.toUpper]

def asciiCapitals (s : List Char) : List Char := s.flatMap asciiCapital

/-- The form used to overlook case, where it is ASCII; any other character stays. -/
def asciiFold (c : Char) : List Char :=
  match c with
  | '\u212a' => ['k']
  | 'ſ' => ['s']
  | 'ß' | 'ẞ' => ['s', 's']
  | 'ﬀ' => ['f', 'f']
  | 'ﬁ' => ['f', 'i']
  | 'ﬂ' => ['f', 'l']
  | 'ﬃ' => ['f', 'f', 'i']
  | 'ﬄ' => ['f', 'f', 'l']
  | 'ﬅ' | 'ﬆ' => ['s', 't']
  | c => [c.toLower]

def asciiFolded (s : List Char) : List Char := s.flatMap asciiFold

end AddOnLoan
