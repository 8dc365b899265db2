import AddOnLoan.Decimal.Text
import AddOnLoan.Text.Printable

namespace AddOnLoan

/-- Code points that no bytes can be written for: a half, with the other halves right behind it. -/
structure UnwritableRun where
  /-- The number of code points in front. -/
  start : Nat
  first : Half
  /-- The number of halves behind the first. -/
  more : Nat
  deriving DecidableEq, Repr

def UnwritableRun.message (run : UnwritableRun) : String :=
  let place :=
    if run.more = 0 then
      "character '\\u" ++ String.ofList (hex 4 run.first.unit) ++ "' in position " ++
        natText run.start
    else
      "characters in position " ++ natText run.start ++ "-" ++ natText (run.start + run.more)
  "'utf-8' codec can't encode " ++ place ++ ": surrogates not allowed"

namespace CodePoint

def isHalf : CodePoint → Bool
  | .char _ => false
  | .half _ => true

/-- The first run that cannot be written, with so many code points in front of the list. -/
def unwritable? (writable : Half → Bool) (start : Nat) : List CodePoint → Option UnwritableRun
  | [] => none
  | .char _ :: rest => unwritable? writable (start + 1) rest
  | .half h :: rest =>
    if writable h then unwritable? writable (start + 1) rest
    else some ⟨start, h, (rest.takeWhile isHalf).length⟩

/-- The bytes of a character, and the one byte that a half may stand for. -/
def bytes : CodePoint → List UInt8
  | .char c => String.utf8EncodeChar c
  | .half h => [UInt8.ofNat h.unit]

def ofByte (b : UInt8) : CodePoint := .ofNat (0xdc00 + b.toNat)

/-- The character that bytes begin with. None has more than four. -/
def charAtFront? (bytes : List UInt8) : Option Char :=
  (bytes.take 4).toByteArray.utf8DecodeChar? 0

def ofBytes : List UInt8 → List CodePoint
  | [] => []
  | b :: rest =>
    match charAtFront? (b :: rest) with
    | some c => .char c :: ofBytes (rest.drop (c.utf8Size - 1))
    | none => ofByte b :: ofBytes rest
termination_by bytes => bytes.length
decreasing_by all_goals simp only [List.length_drop, List.length_cons]; omega

theorem charAtFront?_bytes (c : Char) (rest : List UInt8) :
    charAtFront? (String.utf8EncodeChar c ++ rest) = some c := by
  have h : (String.utf8EncodeChar c).length ≤ 4 := by
    rw [String.length_utf8EncodeChar]; exact c.utf8Size_le_four
  rw [charAtFront?, List.take_append, List.take_of_length_le h, List.toByteArray_append]
  exact ByteArray.utf8DecodeChar?_utf8EncodeChar_append

theorem ofBytes_bytes_append (c : Char) (rest : List UInt8) :
    ofBytes ((CodePoint.char c).bytes ++ rest) = .char c :: ofBytes rest := by
  have hc := charAtFront?_bytes c rest
  have hl : (String.utf8EncodeChar c).length = c.utf8Size := String.length_utf8EncodeChar c
  have hp := c.utf8Size_pos
  simp only [bytes]
  match hs : String.utf8EncodeChar c with
  | [] => simp [hs] at hl; omega
  | b :: bs =>
    rw [hs] at hc hl
    rw [List.cons_append] at hc ⊢
    rw [ofBytes, hc]
    have hd : bs.length = c.utf8Size - 1 := by simp at hl; omega
    simp [← hd]

end CodePoint

namespace Text

def unwritable? (writable : Half → Bool) (t : Text) : Option UnwritableRun :=
  CodePoint.unwritable? writable 0 t.points

def bytes (t : Text) : List UInt8 := t.points.flatMap CodePoint.bytes

def byteSize (t : Text) : Nat := t.bytes.length

def ofBytes (bytes : List UInt8) : Text := .ofPoints (CodePoint.ofBytes bytes)

/-- The text that is read where this one was written in bytes. -/
def readBack (t : Text) : Text := .ofBytes t.bytes

theorem ofBytes_bytes_chars (s : List Char) :
    CodePoint.ofBytes ((s.map CodePoint.char).flatMap CodePoint.bytes) = s.map .char := by
  induction s with
  | nil => simp [CodePoint.ofBytes]
  | cons c s ih => simp [CodePoint.ofBytes_bytes_append, ih]

theorem readBack_ofString (s : String) : (s : Text).readBack = s := by
  simp [readBack, ofBytes, bytes, points, ofBytes_bytes_chars, ofPoints_chars]

end Text
end AddOnLoan
