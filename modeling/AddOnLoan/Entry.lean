import AddOnLoan.Calendar.Text
import AddOnLoan.Decimal.Reader
import AddOnLoan.Json.Printer
import AddOnLoan.Money.Catalogue
import AddOnLoan.Refusal

namespace AddOnLoan
namespace Entry

def withoutCommas (s : List Char) : List Char := s.filter (· != ',')

/-- A finite number; commas in its text are overlooked. -/
def number (shown : Text) : Except InputError Decimal :=
  match Decimal.read? (strip (withoutCommas shown.chars)) with
  | some x => if x.isFinite then .ok x else .error (.number shown)
  | none => .error (.number shown)

def dateText (shown : Text) : Except InputError Date :=
  match Date.read? shown.chars with
  | some d => .ok d
  | none => .error (.date shown)

def date : Json → Except InputError Date
  | .text t => dateText t
  | value => .error (.date value.display)

def frequency (shown : Text) : Except InputError PeriodUnit :=
  match PeriodUnit.read? shown with
  | some u => .ok u
  | none => .error (.frequency shown)

def currency : Json → Except Refusal CurrencyEntry
  | .text code =>
    match CurrencyEntry.find? code with
    | some entry => .ok entry
    | none => .error (.input (.currency code))
  | _ => .error .notText

inductive AmountError where
  | notANumber (text : Text)
  | signal (s : Signal)
  deriving DecidableEq, Repr

/-- What a letter at the end of an amount multiplies it with, and the text before the letter. -/
def scale (t : Text) : Nat × Text :=
  match t.points.getLast? with
  | some (.char 'k') => (1000, .ofPoints t.points.dropLast)
  | some (.char 'm') => (1000000, .ofPoints t.points.dropLast)
  | _ => (1, t)

/-- An amount with an optional `k` for thousands or `m` for millions. A number with such a letter
is multiplied with 28 digits, one without is taken as it is. -/
def amount (text : Text) : Except AmountError Decimal :=
  let (factor, body) := scale (text.strip.lower.mapPlain withoutCommas)
  match number body with
  | .ok x =>
    if factor = 1 then .ok x
    else ((⟨28, .halfEven⟩ : Context).mul x (.ofNat factor)).mapError .signal
  | .error _ => .error (.notANumber body)

end Entry
end AddOnLoan
