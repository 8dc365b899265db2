import AddOnLoan.View.Rich

namespace AddOnLoan

structure TaggedAmount where
  code : Text
  amount : Decimal
  deriving DecidableEq, Repr

def TaggedAmount.toJson (t : TaggedAmount) : Json :=
  .object [("currencyCode", .text t.code), ("amount", .text t.amount.text)]

structure SlimInstallment where
  number : Nat
  start : Option Date
  due : Date
  principalDue : TaggedAmount
  interestDue : TaggedAmount
  totalDue : TaggedAmount
  outstanding : TaggedAmount
  deriving DecidableEq, Repr

namespace SlimInstallment

def ofRow (code : Text) (p : Installment) : SlimInstallment where
  number := p.number
  start := p.start
  due := p.due
  principalDue := ⟨code, p.principalDue⟩
  interestDue := ⟨code, p.interestDue⟩
  totalDue := ⟨code, p.totalDue⟩
  outstanding := ⟨code, p.outstanding⟩

def toJson (i : SlimInstallment) : Json :=
  .object [
    ("installmentNumber", .int i.number),
    ("periodStart", (i.start.map (Json.text ·.iso)).getD .null),
    ("periodEnd", .text i.due.iso),
    ("principalDue", i.principalDue.toJson),
    ("interestDue", i.interestDue.toJson),
    ("totalInstallmentDue", i.totalDue.toJson),
    ("outstandingBalance", i.outstanding.toJson)]

end SlimInstallment

structure SlimView where
  installments : List SlimInstallment

namespace SlimView

def assemble (s : Schedule) (entry : CurrencyEntry) : Except Refusal SlimView := do
  s.checkEntry entry
  return ⟨s.repayments.map (.ofRow entry.code)⟩

def toJson (v : SlimView) : Json :=
  .object [("scheduledLoanInstallments", .array (v.installments.map (·.toJson)))]

end SlimView

inductive Shape where
  | rich
  | slim
  deriving DecidableEq, Repr

namespace Shape

def all : List Shape := [.rich, .slim]

def name : Shape → String
  | .rich => "rich"
  | .slim => "slim"

def ofName? (name : Text) : Option Shape := all.find? fun shape => (shape.name : Text) == name

def assemble (shape : Shape) (s : Schedule) (entry : CurrencyEntry) : Except Refusal Json :=
  match shape with
  | .rich => (·.toJson) <$> RichView.assemble s entry
  | .slim => (·.toJson) <$> SlimView.assemble s entry

end Shape

def Schedule.inShape (s : Schedule) (entry : CurrencyEntry) (name : Text) : Except Refusal Json :=
  match Shape.ofName? name with
  | some shape => shape.assemble s entry
  | none => .error (.input (.shape name))

end AddOnLoan
