import AddOnLoan.Text.Basic

namespace AddOnLoan

def sharedStart : List Char → List Char → Nat
  | a :: as, b :: bs => if a = b then sharedStart as bs + 1 else 0
  | _, _ => 0

structure SharedRun where
  left : Nat
  right : Nat
  size : Nat
  deriving DecidableEq, Repr

/-- The longest run that two texts share; of several the first in `a`, and of those the first
in `b`. -/
def longestRun (a b : List Char) : SharedRun :=
  let runs := (List.range a.length).flatMap fun i =>
    (List.range b.length).map fun j => ⟨i, j, sharedStart (a.drop i) (b.drop j)⟩
  runs.foldl (fun best (run : SharedRun) => if best.size < run.size then run else best) ⟨0, 0, 0⟩

/-- How many characters of `a` are matched with equal ones of `b`, in order. -/
def matchedCount (a b : List Char) : Nat :=
  match longestRun a b with
  | ⟨i, j, size⟩ =>
    if _ : 0 < size ∧ i < a.length then
      matchedCount (a.take i) (b.take j) + size +
        matchedCount (a.drop (i + size)) (b.drop (j + size))
    else 0
termination_by a.length
decreasing_by
  · simp only [List.length_take]; omega
  · simp only [List.length_drop]; omega

/-- A known word, how much of it a typed word matches, and the length of both together. -/
structure Closeness where
  word : String
  matched : Nat
  total : Nat
  deriving DecidableEq, Repr

namespace Closeness

/-- A known word if it is close: at least three fifths of both words are matched. -/
def of? (typed : List Char) (word : String) : Option Closeness :=
  let total := word.length + typed.length
  let enough (matched : Nat) : Bool := 3 * total ≤ 10 * matched
  -- no more can be matched than the shorter word holds
  if enough (min word.length typed.length) then
    let matched := matchedCount word.toList typed
    if enough matched then some ⟨word, matched, total⟩ else none
  else none

/-- Whether one word goes before another: it matches more, or as much and is later in order. -/
def goesBefore (c d : Closeness) : Bool :=
  d.matched * c.total < c.matched * d.total ||
    (d.matched * c.total == c.matched * d.total && d.word ≤ c.word)

end Closeness

/-- The known words close to a typed one, at most three and those the closest, in order. -/
def closeWords (typed : Text) (words : List String) : List String :=
  let close := (words.filterMap (Closeness.of? typed.chars)).mergeSort Closeness.goesBefore
  ((close.take 3).map (·.word)).mergeSort

end AddOnLoan
