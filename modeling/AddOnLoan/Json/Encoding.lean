import AddOnLoan.Json.Reader
import AddOnLoan.Text.Bytes

namespace AddOnLoan

inductive Encoding where
  | utf8
  | utf16 (bigEndian : Bool)
  | utf32 (bigEndian : Bool)
  deriving DecidableEq, Repr

namespace Encoding

/-- The text begins with an ASCII character, so where the zeros stand among the first four bytes
tells how many bytes a code unit has and which of them comes first. -/
def detect : List UInt8 → Encoding
  | 0 :: 0 :: _ :: _ :: _ => .utf32 true
  | 0 :: _ :: _ :: _ :: _ => .utf16 true
  | _ :: 0 :: 0 :: 0 :: _ => .utf32 false
  | _ :: 0 :: _ :: _ :: _ => .utf16 false
  | [0, _] => .utf16 true
  | [_, 0] => .utf16 false
  | _ => .utf8

def number (bytes : List UInt8) : Nat := bytes.foldl (fun n byte => 256 * n + byte.toNat) 0

/-- The code units of two bytes each; none if a byte is left over. -/
def units16? (bigEndian : Bool) : List UInt8 → Option (List Nat)
  | [] => some []
  | [_] => none
  | a :: b :: rest =>
    (units16? bigEndian rest).map ((if bigEndian then number [a, b] else number [b, a]) :: ·)

/-- The code units of four bytes each; none if bytes are left over or a unit is no code point. -/
def units32? (bigEndian : Bool) : List UInt8 → Option (List Nat)
  | [] => some []
  | a :: b :: c :: d :: rest =>
    let unit := if bigEndian then number [a, b, c, d] else number [d, c, b, a]
    if unit < 0x110000 then (units32? bigEndian rest).map (unit :: ·) else none
  | _ => none

end Encoding

/-- The code points of a body whose bytes are those of a given text; a byte order mark in front is
passed over. -/
def bodyPoints? (body : String) : Option (List CodePoint) :=
  let bytes := (body : Text).bytes
  match Encoding.detect bytes with
  | .utf8 =>
    match body.toList with
    | '\ufeff' :: rest => some (rest.map .char)
    | s => some (s.map .char)
  | .utf16 bigEndian =>
    (Encoding.units16? bigEndian bytes).map fun units => CodePoint.ofUnits (units.map .unit)
  | .utf32 bigEndian =>
    (Encoding.units32? bigEndian bytes).map fun units => units.map CodePoint.ofNat

def Json.readBody (room : Nat) (body : String) : Except Json.ReadError Json :=
  match bodyPoints? body with
  | some s => Json.read room s
  | none => .error .malformed

end AddOnLoan
