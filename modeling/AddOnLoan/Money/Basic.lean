import AddOnLoan.Decimal.Context
import AddOnLoan.Decimal.Text
import AddOnLoan.Text.Basic

namespace AddOnLoan

structure Currency where
  code : Text
  places : Nat
  places_le : places ≤ 10 := by decide
  deriving DecidableEq, Repr

inductive PartsError where
  | count
  | sign
  | digits
  | exponent
  | exponentLetter
  /-- A whole number does not fit into sixty-four bits. -/
  | outOfRange
  deriving DecidableEq, Repr

inductive MoneyError where
  | placesOutOfRange (places : Int)
  /-- A number of places is out of range and has too many digits to be written. -/
  | longNumeral
  /-- The value given for an amount, as it is shown, is no number. -/
  | notANumber (shown : Text)
  | malformedParts (e : PartsError)
  /-- The value given for an amount is of a kind that never stands for a number. -/
  | wrongType
  | cannotBeHeld (amount : Decimal) (places : Nat)
  | currencyMismatch (code other : Text)
  | divisionByZero
  | unknownRounding
  | signal (s : Signal)
  deriving DecidableEq, Repr

def PartsError.message : PartsError → String
  | count => "argument must be a sequence of length 3"
  | sign => "sign must be an integer with the value 0 or 1"
  | digits => "coefficient must be a tuple of digits"
  | exponent => "exponent must be an integer"
  | exponentLetter => "string argument in the third position must be 'F', 'n' or 'N'"
  | outOfRange => ""

namespace MoneyError

def message : MoneyError → Text
  | placesOutOfRange n => "decimal_places must be between 0 and 10; got " ++ intText n
  | longNumeral => longNumeralText
  | notANumber shown => "Invalid amount: " ++ shown
  | malformedParts e => e.message
  | cannotBeHeld x places =>
    x.text ++ " cannot be held with " ++ natText places ++ " decimal places"
  | currencyMismatch code other => "Cannot combine " ++ code ++ " with " ++ other
  | divisionByZero => "Cannot divide money by zero"
  | wrongType | unknownRounding | signal _ => ""

end MoneyError

def Currency.make? (code : Text) (places : Int) : Except MoneyError Currency :=
  if h : 0 ≤ places ∧ places ≤ 10 then .ok ⟨code, places.toNat, by omega⟩
  else .error (if fitsNumeral places then .placesOutOfRange places else .longNumeral)

/-- A number that ends at the last of so many places; a quiet not-a-number counts as well. -/
def Decimal.EndsAt (places : Nat) : Decimal → Prop
  | .finite _ _ e => e = -(places : Int)
  | .infinity _ => False
  | .nan signalling _ _ => signalling = false

instance (places : Nat) (x : Decimal) : Decidable (x.EndsAt places) := by
  cases x <;> unfold Decimal.EndsAt <;> infer_instance

/-- An amount is held with the places of its currency and computed with fifty digits. -/
structure Money where
  currency : Currency
  amount : Decimal
  endsAt : amount.EndsAt currency.places
  deriving DecidableEq

def moneyContext : Context := ⟨50, .halfEven⟩

theorem Context.endsAt_of_special {ctx : Context} {x y : Decimal} (places : Nat)
    (h : ctx.special x = some (.ok y)) : y.EndsAt places := by
  cases x with
  | nan signalling s p =>
    cases signalling
    · simp only [special, Option.some.injEq, Except.ok.injEq] at h
      exact h ▸ rfl
    · simp [special] at h
  | _ => simp [special] at h

theorem Context.endsAt_of_quantize {ctx : Context} {x y : Decimal} {places : Nat}
    (h : ctx.quantize x (-(places : Int)) = .ok y) : y.EndsAt places := by
  unfold quantize at h
  split at h
  case h_1 hr => exact endsAt_of_special places (h ▸ hr)
  case h_2 =>
    split at h
    · cases h; rfl
    · split at h
      · cases h
      · simp only at h
        split at h <;> cases h
        rfl
  case h_3 => cases h

namespace Money

def quantize (currency : Currency) (x : Decimal) (mode : Rounding) : Except MoneyError Money :=
  match h : ({ moneyContext with rounding := mode } : Context).quantize x
      (-(currency.places : Int)) with
  | .ok y => .ok ⟨currency, y, Context.endsAt_of_quantize h⟩
  | .error _ => .error (.cannotBeHeld x currency.places)

/-- The amount `x` rounded to the places of its currency; without a direction there is none. -/
def of (currency : Currency) (x : Decimal) (rounding : Option Rounding := some .halfEven) :
    Except MoneyError Money :=
  match rounding with
  | some mode => quantize currency x mode
  | none => .error .unknownRounding

/-- The amount `x` as it is if it ends at the last place of its currency, however long it is, and
else rounded half to even. -/
def holding (currency : Currency) (x : Decimal) : Except MoneyError Money :=
  if h : x.isFinite ∧ x.EndsAt currency.places then .ok ⟨currency, x, h.2⟩
  else quantize currency x .halfEven

def zero (currency : Currency) : Money :=
  ⟨currency, .finite false 0 (-(currency.places : Int)), rfl⟩

def combine (op : Context → Decimal → Decimal → Except Signal Decimal) (m n : Money) :
    Except MoneyError Money :=
  if n.currency ≠ m.currency then .error (.currencyMismatch m.currency.code n.currency.code)
  else (op moneyContext m.amount n.amount).mapError .signal >>= holding m.currency

def plus (m n : Money) : Except MoneyError Money := combine Context.add m n

def minus (m n : Money) : Except MoneyError Money := combine Context.sub m n

def times (m : Money) (factor : Decimal) (rounding : Option Rounding) : Except MoneyError Money :=
  (moneyContext.mul m.amount factor).mapError .signal >>= (of m.currency · rounding)

def dividedBy (m : Money) (divisor : Decimal) (rounding : Option Rounding) :
    Except MoneyError Money := do
  if ← (divisor.equals0).mapError .signal then .error .divisionByZero
  else (moneyContext.div m.amount divisor).mapError .signal >>= (of m.currency · rounding)

theorem endsAt_withSign {x : Decimal} {places : Nat} (h : x.EndsAt places) (s : Bool) :
    (x.withSign s).EndsAt places := by
  cases x <;> exact h

def abs (m : Money) : Money := ⟨m.currency, m.amount.magnitude, endsAt_withSign m.endsAt _⟩

def negated (m : Money) : Money := ⟨m.currency, m.amount.negate, endsAt_withSign m.endsAt _⟩

def isZero (m : Money) : Except Signal Bool := m.amount.equals0

def isPositive (m : Money) : Except Signal Bool := (m.amount.order0).map (decide <| 0 < ·)

def isNegative (m : Money) : Except Signal Bool := (m.amount.order0).map (decide <| · < 0)

/-- Equal currencies, places included, and amounts of equal value. -/
def same (m n : Money) : Bool := m.currency == n.currency && m.amount.sameValue n.amount

def text (m : Money) : Text := m.currency.code ++ " " ++ m.amount.text

end Money
end AddOnLoan
