import AddOnLoan.Refusal

namespace AddOnLoan

inductive Event where
  | datesLaidOut (count : Nat) (first last : Date)
  | rejected (e : TermsError)
  | shares (rate : Decimal) (totalInterest principal interest : Money)
  | lastAdjusted (principal interest : Money)
  | scheduleBuilt (count : Nat) (principal : Money) (days : Int)

namespace Event

def origin : Event → String
  | datesLaidOut .. => "flat_loan.frequency"
  | _ => "flat_loan.engine"

def message : Event → Text
  | datesLaidOut count first last =>
    "Generated " ++ natText count ++ " due dates from " ++ first.iso ++ " to " ++ last.iso
  | rejected e => "Rejected loan terms: " ++ e.message
  | shares rate total principal interest =>
    "Flat schedule: rate for term " ++ rate.text ++ ", total interest " ++ total.text ++ ", " ++
      principal.text ++ " principal + " ++ interest.text ++ " interest per installment"
  | lastAdjusted principal interest =>
    "Last installment adjusted by " ++ principal.text ++ " principal, " ++ interest.text ++
      " interest"
  | scheduleBuilt count principal days =>
    "Generated " ++ natText count ++ " installments for " ++ principal.text ++ " over " ++
      intText days ++ " days"

def line (e : Event) : Text := "DEBUG " ++ e.origin ++ ": " ++ e.message

end Event

/-- A computation that leaves a record of events behind, whether it succeeds or not. -/
structure Traced (α : Type) where
  events : List Event
  outcome : Except Refusal α

namespace Traced

protected def pure (a : α) : Traced α := ⟨[], .ok a⟩

/-- Goes on with a result; the events of both parts are kept in order. -/
protected def bind (t : Traced α) (next : α → Traced β) : Traced β :=
  match t.outcome with
  | .ok a =>
    let rest := next a
    ⟨t.events ++ rest.events, rest.outcome⟩
  | .error e => ⟨t.events, .error e⟩

instance : Monad Traced where
  pure := Traced.pure
  bind := Traced.bind

instance : MonadLift (Except Refusal) Traced := ⟨fun outcome => ⟨[], outcome⟩⟩

def report (e : Event) : Traced Unit := ⟨[e], .ok ()⟩

def reject (e : TermsError) : Traced α := ⟨[.rejected e], .error (.terms e)⟩

/-- Turns terms down unless a condition holds. What would be said is written before the condition is
looked at, and a number that cannot be written ends it there. -/
def require (condition : Bool) (e : TermsError) : Traced Unit :=
  if !e.isWritable then ⟨[], .error (.input .longNumeral)⟩
  else if condition then Traced.pure ()
  else reject e

end Traced
end AddOnLoan
