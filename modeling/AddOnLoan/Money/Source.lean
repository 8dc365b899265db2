import AddOnLoan.Json.Printer
import AddOnLoan.Money.Basic
import AddOnLoan.Decimal.Reader

namespace AddOnLoan

namespace Money

/-- The whole number in a list of parts. It is turned down as `fault` if it is none, and in any
place if it does not fit into sixty-four bits. -/
def part (fault : PartsError) (value : Json) : Except PartsError Int :=
  match value.wholeNumber? with
  | none => .error fault
  | some n =>
    let bound := (2 : Int) ^ (63 : Nat)
    if -bound ≤ n ∧ n < bound then .ok n else .error .outOfRange

def digit (value : Json) : Except PartsError Nat := do
  let n ← part .digits value
  if 0 ≤ n ∧ n ≤ 9 then return n.toNat else .error .digits

/-- A number from its sign, its exponent and its digits, looked at in this order; a letter in the
place of the exponent names an infinity or a not-a-number. -/
def ofParts (sign digits exponent : Json) : Except PartsError Decimal := do
  let negative ←
    match ← part .sign sign with
    | 0 => pure false
    | 1 => pure true
    | _ => throw .sign
  let kind : Nat → Decimal ←
    match exponent with
    | .text letter =>
      match letter.toString with
      | "F" => pure (fun _ => Decimal.infinity negative)
      | "n" => pure (Decimal.nan false negative ·)
      | "N" => pure (Decimal.nan true negative ·)
      | _ => throw .exponentLetter
    | value => do
      let e ← part .exponent value
      pure (Decimal.finite negative · e)
  match digits with
  | .array items => return kind (digitsValue (← items.mapM digit))
  | _ => throw .digits

def readText (shown : Text) : Except MoneyError Decimal :=
  match Decimal.read? shown.chars with
  | some x => .ok x
  | none => .error (.notANumber shown)

def ofList (value : Json) : List Json → Except MoneyError Decimal
  | [sign, digits, exponent] => do
    let x ← (ofParts sign digits exponent).mapError .malformedParts
    if x.readable then .ok x else .error (.notANumber value.display)
  | _ => .error (.malformedParts .count)

def read (value : Json) : Except MoneyError Decimal :=
  match value with
  | .text t => readText t
  | .double x => readText x.text
  | .int n => .ok (.ofInt n)
  | .bool b => .ok (.ofNat (if b then 1 else 0))
  | .array items => ofList value items
  | .null | .object _ => .error .wrongType

end Money
end AddOnLoan
