import AddOnLoan.Binary64
import AddOnLoan.Text.Basic

namespace AddOnLoan

/-- Whole numbers and binary floating-point numbers are kept apart, and the fields of an object keep
the order in which their keys first came. -/
inductive Json where
  | null
  | bool (b : Bool)
  | int (n : Int)
  | double (x : Binary64)
  | text (t : Text)
  | array (items : List Json)
  | object (fields : List (Text × Json))

namespace Json

/-- Puts a value under a key; a key that is there keeps its place. -/
def setField (fields : List (Text × Json)) (key : Text) (value : Json) : List (Text × Json) :=
  if fields.any (·.1 == key) then
    fields.map fun (k, v) => if k == key then (k, value) else (k, v)
  else fields ++ [(key, value)]

def field? (fields : List (Text × Json)) (key : String) : Option Json :=
  (fields.find? (·.1 == (key : Text))).map (·.2)

def wholeNumber? : Json → Option Int
  | .int n => some n
  | .bool b => some (if b then 1 else 0)
  | _ => none

def isBelow? (value : Json) (n : Int) : Option Bool :=
  match value with
  | .double x => some (x.isBelow n)
  | value => value.wholeNumber?.map (decide <| · < n)

/-- An empty or zero value counts as not given where a field is optional. -/
def isBlankValue : Json → Bool
  | .null => true
  | .bool b => !b
  | .int n => n == 0
  | .double x => x.isZero
  | .text t => t.isEmpty
  | .array items => items.isEmpty
  | .object fields => fields.isEmpty

end Json
end AddOnLoan
