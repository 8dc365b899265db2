import AddOnLoan.Text.Basic

namespace AddOnLoan
namespace ControlSequence

def isParameter (c : Char) : Bool := '0' ≤ c && c ≤ '?'

def isMark (c : Char) : Bool := ' ' ≤ c && c ≤ '/'

def isFinal (c : Char) : Bool := '@' ≤ c && c ≤ '~'

/-- What follows a sequence of which the bracket has been read; none if the sequence never ends. -/
def rest? (s : List Char) : Option (List Char) :=
  match (s.dropWhile isParameter).dropWhile isMark with
  | c :: rest => if isFinal c then some rest else none
  | [] => none

theorem length_dropWhile_le (p : Char → Bool) (s : List Char) :
    (s.dropWhile p).length ≤ s.length :=
  (List.dropWhile_suffix p).length_le

theorem length_lt_of_rest? {s rest : List Char} (h : rest? s = some rest) :
    rest.length < s.length := by
  unfold rest? at h
  split at h
  case h_1 c r hs =>
    split at h
    · have hr : r.length < (c :: r).length := Nat.lt_succ_self _
      rw [← hs] at hr
      cases h
      exact Nat.lt_of_lt_of_le hr
        (Nat.le_trans (length_dropWhile_le _ _) (length_dropWhile_le _ _))
    · cases h
  case h_2 => cases h

/-- The characters that belong to no control sequence. One that never ends is none. -/
def remove : List Char → List Char
  | '\x1b' :: '[' :: s =>
    match h : rest? s with
    | some rest =>
      have := length_lt_of_rest? h
      remove rest
    | none => '\x1b' :: remove ('[' :: s)
  | c :: s => c :: remove s
  | [] => []
termination_by s => s.length
decreasing_by all_goals simp only [List.length_cons]; omega

end ControlSequence

def Text.withoutControls (t : Text) : Text := t.mapPlain ControlSequence.remove

end AddOnLoan
