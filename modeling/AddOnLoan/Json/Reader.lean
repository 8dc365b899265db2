import AddOnLoan.Json.Basic
import AddOnLoan.Decimal.Reader

namespace AddOnLoan
namespace Json

inductive ReadError where
  | malformed
  /-- Before anything else was found wrong, values lay too deep inside one another. -/
  | tooDeep
  deriving DecidableEq, Repr

def skipSpace (s : List CodePoint) : List CodePoint :=
  s.dropWhile ([.char ' ', .char '\t', .char '\n', .char '\r'].contains ·)

def hexValue? : CodePoint → Option Nat
  | .char c =>
    if c.isDigit then some (c.toNat - '0'.toNat)
    else if 'a' ≤ c ∧ c ≤ 'f' then some (c.toNat - 'a'.toNat + 10)
    else if 'A' ≤ c ∧ c ≤ 'F' then some (c.toNat - 'A'.toNat + 10)
    else none
  | .half _ => none

def hexUnit? (ds : List CodePoint) : Option Nat :=
  (ds.mapM hexValue?).map fun vs => vs.foldl (fun n d => 16 * n + d) 0

def escape? : Char → Option Char
  | '"' => some '"'
  | '\\' => some '\\'
  | '/' => some '/'
  | 'b' => some '\x08'
  | 'f' => some '\x0c'
  | 'n' => some '\n'
  | 'r' => some '\r'
  | 't' => some '\t'
  | _ => none

/-- What a string is made of up to its closing quote, and what follows the quote. -/
def readUnits? : List CodePoint → Option (List CodeUnit × List CodePoint)
  | [] => none
  | .char '"' :: rest => some ([], rest)
  | .char '\\' :: .char 'u' :: a :: b :: c :: d :: rest => do
    let n ← hexUnit? [a, b, c, d]
    let (units, rest) ← readUnits? rest
    return (.unit n :: units, rest)
  | .char '\\' :: .char letter :: rest => do
    let c ← escape? letter
    let (units, rest) ← readUnits? rest
    return (.whole (.char c) :: units, rest)
  | .char '\\' :: _ => none
  | point :: rest =>
    if point.toChar.toNat < 0x20 then none
    else (readUnits? rest).map fun (units, rest) => (.whole point :: units, rest)

def readText? (s : List CodePoint) : Option (Text × List CodePoint) :=
  (readUnits? s).map fun (units, rest) => (.ofPoints (CodePoint.ofUnits units), rest)

/-- The digits in front of a point. A zero in front of others is a number of its own. -/
def readWhole : List Char → List Nat × List Char
  | '0' :: rest => ([0], rest)
  | s => Decimal.spanDigits s

def readPlaces (s : List Char) : List Nat × List Char :=
  match s with
  | '.' :: rest =>
    let (ds, after) := Decimal.spanDigits rest
    if ds.isEmpty then ([], s) else (ds, after)
  | _ => ([], s)

def readPower (s : List Char) : Option Int × List Char :=
  match s with
  | mark :: rest =>
    if mark = 'e' ∨ mark = 'E' then
      let (negative, rest) := Decimal.readSign rest
      let (ds, after) := Decimal.spanDigits rest
      if ds.isEmpty then (none, s) else (some (Decimal.signed negative (digitsValue ds)), after)
    else (none, s)
  | [] => (none, s)

/-- A number without its sign. With a point or a power it is a binary floating-point number. -/
def readNumber? (negative : Bool) (s : List Char) : Option (Json × List Char) :=
  let (whole, rest) := readWhole s
  if whole.isEmpty then none
  else
    let (places, rest') := readPlaces rest
    let (power, rest'') := readPower rest'
    if places.isEmpty ∧ power.isNone then
      if whole.length > longestNumeral then none
      else some (.int (Decimal.signed negative (digitsValue whole)), rest)
    else
      let x := .nearest negative (digitsValue (whole ++ places)) (power.getD 0 - places.length)
      some (.double x, rest'')

def readSigned? : List Char → Option (Json × List Char)
  | '-' :: rest => readNumber? true rest
  | rest => readNumber? false rest

def words : List (Text × Json) := [
  ("null", .null),
  ("true", .bool true),
  ("false", .bool false),
  ("NaN", .double .nan),
  ("Infinity", .double (.infinity false)),
  ("-Infinity", .double (.infinity true))]

def isInNumber : CodePoint → Bool
  | .char c => c.isDigit || ['-', '+', '.', 'e', 'E'].contains c
  | .half _ => false

def readScalar? (s : List CodePoint) : Option (Json × List CodePoint) :=
  match words.find? fun (word, _) => word.points.isPrefixOf s with
  | some (word, value) => some (value, s.drop word.points.length)
  | none =>
    match s with
    | .char '"' :: rest => (readText? rest).map fun (t, rest) => (.text t, rest)
    | s =>
      (readSigned? ((s.takeWhile isInNumber).map (·.toChar))).map fun (value, left) =>
        (value, left.map CodePoint.char ++ s.dropWhile isInNumber)

def expect (found : Option α) : Except ReadError α :=
  match found with
  | some a => .ok a
  | none => .error .malformed

mutual

/-- The first value of a text and what follows it, with room for so many arrays and objects around
one another. The bound is on the values and items entered; no character enters more than two. -/
def readValue (room : Nat) : Nat → List CodePoint → Except ReadError (Json × List CodePoint)
  | 0, _ => .error .malformed
  | bound + 1, .char '[' :: rest =>
    if room = 0 then .error .tooDeep
    else match skipSpace rest with
      | .char ']' :: rest => .ok (.array [], rest)
      | s => do
        let (items, rest) ← readItems (room - 1) bound s
        return (.array items, rest)
  | bound + 1, .char '{' :: rest =>
    if room = 0 then .error .tooDeep
    else match skipSpace rest with
      | .char '}' :: rest => .ok (.object [], rest)
      | s => do
        let (fields, rest) ← readFields (room - 1) bound [] s
        return (.object fields, rest)
  | _ + 1, s => expect (readScalar? s)

def readItems (room : Nat) : Nat → List CodePoint → Except ReadError (List Json × List CodePoint)
  | 0, _ => .error .malformed
  | bound + 1, s => do
    let (item, rest) ← readValue room bound s
    match skipSpace rest with
    | .char ']' :: rest => return ([item], rest)
    | .char ',' :: rest =>
      let (items, rest) ← readItems room bound (skipSpace rest)
      return (item :: items, rest)
    | _ => .error .malformed

def readFields (room : Nat) :
    Nat → List (Text × Json) → List CodePoint →
      Except ReadError (List (Text × Json) × List CodePoint)
  | bound + 1, fields, .char '"' :: s => do
    let (key, rest) ← expect (readText? s)
    match skipSpace rest with
    | .char ':' :: rest =>
      let (value, rest) ← readValue room bound (skipSpace rest)
      let fields := setField fields key value
      match skipSpace rest with
      | .char '}' :: rest => return (fields, rest)
      | .char ',' :: rest => readFields room bound fields (skipSpace rest)
      | _ => .error .malformed
    | _ => .error .malformed
  | _, _, _ => .error .malformed

end

/-- The value of a whole text, with room for so many arrays and objects around one another. Beyond
the standard the words for infinities and not-a-number are numbers; of fields with one key the last
counts. -/
def read (room : Nat) (s : List CodePoint) : Except ReadError Json := do
  let (value, rest) ← readValue room (2 * s.length + 2) (skipSpace s)
  if (skipSpace rest).isEmpty then return value else .error .malformed

end Json
end AddOnLoan
