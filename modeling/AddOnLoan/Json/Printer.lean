import AddOnLoan.Json.Basic
import AddOnLoan.Text.Printable

namespace AddOnLoan
namespace Json

def escapeUnit (n : Nat) : List Char := '\\' :: 'u' :: hex 4 n

/-- A character inside a string; beyond the basic plane it is a surrogate pair. -/
def escapeChar (c : Char) : List Char :=
  match c with
  | '"' => ['\\', '"']
  | '\\' => ['\\', '\\']
  | '\n' => ['\\', 'n']
  | '\r' => ['\\', 'r']
  | '\t' => ['\\', 't']
  | '\x08' => ['\\', 'b']
  | '\x0c' => ['\\', 'f']
  | c =>
    let n := c.toNat
    if 0x20 ≤ n ∧ n < 0x7f then [c]
    else if n < 0x10000 then escapeUnit n
    else
      let high := 0xd800 + (n - 0x10000) / 0x400
      let low := 0xdc00 + (n - 0x10000) % 0x400
      escapeUnit high ++ escapeUnit low

def escapePoint : CodePoint → List Char
  | .char c => escapeChar c
  | .half h => escapeUnit h.unit

def string (t : Text) : String :=
  String.ofList ('"' :: t.points.flatMap escapePoint ++ ['"'])

def number : Binary64 → String
  | .infinity negative => if negative then "-Infinity" else "Infinity"
  | .nan => "NaN"
  | x => x.text

def scalar : Json → String
  | .null => "null"
  | .bool b => if b then "true" else "false"
  | .int n => intText n
  | .double x => number x
  | .text t => string t
  | .array _ | .object _ => ""

mutual

/-- The value on one line, with `gap` behind every comma and colon. -/
def line (gap : String) : Json → String
  | .array items => "[" ++ ("," ++ gap).intercalate (lineItems gap items) ++ "]"
  | .object fields => "\x7b" ++ ("," ++ gap).intercalate (lineFields gap fields) ++ "\x7d"
  | value => scalar value

def lineItems (gap : String) : List Json → List String
  | [] => []
  | item :: rest => line gap item :: lineItems gap rest

def lineFields (gap : String) : List (Text × Json) → List String
  | [] => []
  | (key, value) :: rest => (string key ++ ":" ++ gap ++ line gap value) :: lineFields gap rest

end

def compact (value : Json) : String := value.line ""

def block (opening closing : String) (margin : Nat) (parts : List String) : String :=
  let line (depth : Nat) : String := "\n" ++ String.ofList (List.replicate depth ' ')
  let inner := line (margin + 2)
  opening ++ inner ++ ("," ++ inner).intercalate parts ++ line margin ++ closing

mutual

/-- The value with its parts on lines of their own, two blanks further in than `margin`. -/
def indentedAt (margin : Nat) : Json → String
  | .array [] => "[]"
  | .array items => block "[" "]" margin (indentedItems (margin + 2) items)
  | .object [] => "\x7b\x7d"
  | .object fields => block "\x7b" "\x7d" margin (indentedFields (margin + 2) fields)
  | value => scalar value

def indentedItems (margin : Nat) : List Json → List String
  | [] => []
  | item :: rest => indentedAt margin item :: indentedItems margin rest

def indentedFields (margin : Nat) : List (Text × Json) → List String
  | [] => []
  | (key, value) :: rest =>
    (string key ++ ": " ++ indentedAt margin value) :: indentedFields margin rest

end

def indented (value : Json) : String := indentedAt 0 value

mutual

def nested : Json → String
  | .null => "None"
  | .bool b => if b then "True" else "False"
  | .int n => intText n
  | .double x => x.text
  | .text t => quoted t
  | .array items => "[" ++ ", ".intercalate (nestedItems items) ++ "]"
  | .object fields => "\x7b" ++ ", ".intercalate (nestedFields fields) ++ "\x7d"

def nestedItems : List Json → List String
  | [] => []
  | item :: rest => nested item :: nestedItems rest

def nestedFields : List (Text × Json) → List String
  | [] => []
  | (key, value) :: rest => (quoted key ++ ": " ++ nested value) :: nestedFields rest

end

def display : Json → Text
  | .text t => t
  | value => nested value

def isWritable : Json → Bool
  | .int n => fitsNumeral n
  | _ => true

end Json
end AddOnLoan
