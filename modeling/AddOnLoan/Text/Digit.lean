namespace AddOnLoan

-- A power is that of the core library, also where another library knows powers of its own.
attribute [scoped instance (high)] instPowNat

/-- Each script writes its ten digits at ten consecutive code points, so the zeros, in rising order,
are all that has to be known. -/
def digitZeros : List Nat := [
    0x30, 0x660, 0x6f0, 0x7c0, 0x966, 0x9e6, 0xa66, 0xae6, 0xb66, 0xbe6, 0xc66, 0xce6, 0xd66,
    0xde6, 0xe50, 0xed0, 0xf20, 0x1040, 0x1090, 0x17e0, 0x1810, 0x1946, 0x19d0, 0x1a80, 0x1a90,
    0x1b50, 0x1bb0, 0x1c40, 0x1c50, 0xa620, 0xa8d0, 0xa900, 0xa9d0, 0xa9f0, 0xaa50, 0xabf0,
    0xff10, 0x104a0, 0x10d30, 0x11066, 0x110f0, 0x11136, 0x111d0, 0x112f0, 0x11450, 0x114d0,
    0x11650, 0x116c0, 0x11730, 0x118e0, 0x11950, 0x11c50, 0x11d50, 0x11da0, 0x16a60, 0x16ac0,
    0x16b50, 0x1d7ce, 0x1d7d8, 0x1d7e2, 0x1d7ec, 0x1d7f6, 0x1e140, 0x1e2f0, 0x1e950, 0x1fbf0]

/-- The most digits of a whole number that are read or written. -/
def longestNumeral : Nat := 4300

def digitValue? (c : Char) : Option Nat :=
  (digitZeros.find? fun z => z ≤ c.toNat && c.toNat < z + 10).map (c.toNat - ·)

def asciiDigit? (c : Char) : Option Nat :=
  if c.isDigit then some (c.toNat - '0'.toNat) else none

/-- A word of digits that has been read in part: the number in front, and the last digits read,
which are not joined to it before there are many of them. A word of a million digits is so
multiplied once for hundreds of them. -/
structure DigitRun where
  front : Nat := 0
  last : Nat := 0
  length : Nat := 0

namespace DigitRun

def value (run : DigitRun) : Nat := run.front * 10 ^ run.length + run.last

def push (run : DigitRun) (d : Nat) : DigitRun :=
  if run.length < 200 then { run with last := 10 * run.last + d, length := run.length + 1 }
  else ⟨run.value, d, 1⟩

theorem value_push (run : DigitRun) (d : Nat) : (run.push d).value = 10 * run.value + d := by
  unfold push
  split
  · rw [value, value, Nat.pow_succ, Nat.mul_add, ← Nat.mul_assoc, Nat.mul_comm _ 10, Nat.add_assoc]
  · rw [value, Nat.pow_one, Nat.mul_comm]

theorem value_foldl_push (run : DigitRun) (ds : List Nat) :
    (ds.foldl push run).value = ds.foldl (fun n d => 10 * n + d) run.value := by
  induction ds generalizing run with
  | nil => rfl
  | cons d ds ih => rw [List.foldl_cons, List.foldl_cons, ih, value_push]

end DigitRun

def digitsValue (ds : List Nat) : Nat := (ds.foldl DigitRun.push {}).value

theorem digitsValue_eq (ds : List Nat) : digitsValue ds = ds.foldl (fun n d => 10 * n + d) 0 := by
  rw [digitsValue, DigitRun.value_foldl_push]
  rfl

end AddOnLoan
