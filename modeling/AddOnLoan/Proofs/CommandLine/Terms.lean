import AddOnLoan.CommandLine.Commands
import AddOnLoan.Proofs.Web.Reading

namespace AddOnLoan
namespace TermOptions

variable {o : TermOptions} {x : Decimal} {terms : LoanTerms} {entry : CurrencyEntry}

theorem asBadValue_eq_ok_iff {outcome : Except Refusal α} {a : α} :
    asBadValue outcome = .ok a ↔ outcome = .ok a :=
  mapError_eq_ok_iff

def termUnit (o : TermOptions) (unit : PeriodUnit) : Except InputError PeriodUnit :=
  match givenText o.loanTermType with
  | some text => Entry.frequency text
  | none => .ok unit

/-- The options hold the parts of terms. -/
structure Holds (o : TermOptions) (parts : TermParts) : Prop where
  entry : Entry.currency o.currency = .ok parts.entry
  unit : Entry.frequency o.frequency = .ok parts.unit
  termUnit : o.termUnit parts.unit = .ok parts.termUnit
  disbursed : Entry.dateText o.disbursementDate = .ok parts.disbursed
  first : (givenText o.firstRepaymentDate).mapM Entry.dateText = .ok parts.first
  rate : Entry.number o.rate = .ok parts.rate
  currency : parts.entry.currency o.digits = .ok parts.currency
  amount : amount o.principal = .ok parts.amount
  principal : Money.of parts.currency parts.amount = .ok parts.principal
  repayments : parts.repayments = o.repayments
  every : parts.every = o.every
  term : parts.term = o.loanTerm.getD (o.repayments * o.every)
  interestFrom : parts.interestFrom = none

theorem terms_eq (o : TermOptions) :
    o.terms =
      asBadValue (Entry.currency o.currency) >>= fun entry =>
      asBadValue ((Entry.frequency o.frequency).mapError .input) >>= fun unit =>
      asBadValue ((o.termUnit unit).mapError .input) >>= fun termUnit =>
      asBadValue ((Entry.dateText o.disbursementDate).mapError .input) >>= fun disbursed =>
      asBadValue (((givenText o.firstRepaymentDate).mapM Entry.dateText).mapError .input) >>=
        fun first =>
      asBadValue ((Entry.number o.rate).mapError .input) >>= fun rate =>
      asBadValue ((entry.currency o.digits).mapError .money) >>= fun currency =>
      amount o.principal >>= fun amount =>
      asBadValue ((Money.of currency amount).mapError .money) >>= fun principal =>
      .ok (TermParts.terms ⟨entry, currency, o.repayments, o.every, unit, amount, principal, rate,
        o.loanTerm.getD (o.repayments * o.every), termUnit, disbursed, first, none⟩, entry) := by
  have hfirst : ((givenText o.firstRepaymentDate).mapM fun text =>
      asBadValue ((Entry.dateText text).mapError .input)) =
        asBadValue (((givenText o.firstRepaymentDate).mapM Entry.dateText).mapError .input) := by
    cases givenText o.firstRepaymentDate with
    | none => rfl
    | some text => cases h : Entry.dateText text <;> simp [h, asBadValue, Except.mapError]
  rw [← hfirst]
  unfold terms termUnit
  cases givenText o.loanTermType <;> rfl

theorem terms_eq_ok_iff : o.terms = .ok (terms, entry) ↔
    ∃ parts : TermParts, o.Holds parts ∧ terms = parts.terms ∧ entry = parts.entry := by
  simp only [terms_eq, bind_eq_ok_iff, asBadValue_eq_ok_iff, mapError_eq_ok_iff, Except.ok.injEq,
    Prod.mk.injEq]
  constructor
  · rintro ⟨_, hentry, _, hunit, _, htermUnit, _, hdisbursed, _, hfirst, _, hrate, _, hcurrency,
      _, hamount, _, hprincipal, rfl, rfl⟩
    exact ⟨⟨_, _, _, _, _, _, _, _, _, _, _, _, _⟩, ⟨hentry, hunit, htermUnit, hdisbursed, hfirst,
      hrate, hcurrency, hamount, hprincipal, rfl, rfl, rfl, rfl⟩, rfl, rfl⟩
  · rintro ⟨⟨_, _, _, _, _, _, _, _, _, _, _, _, _⟩, ⟨hentry, hunit, htermUnit, hdisbursed, hfirst,
      hrate, hcurrency, hamount, hprincipal, rfl, rfl, rfl, rfl⟩, rfl, rfl⟩
    exact ⟨_, hentry, _, hunit, _, htermUnit, _, hdisbursed, _, hfirst, _, hrate, _, hcurrency, _,
      hamount, _, hprincipal, rfl, rfl⟩

theorem amount_eq_ok_iff {t : Text} : amount (.text t) = .ok x ↔ Entry.amount t = .ok x := by
  simp only [amount, mapError_eq_ok_iff]

theorem compute_eq_ok_iff {s : Schedule} : o.compute = .ok (s, entry) ↔
    ∃ terms, o.terms = .ok (terms, entry) ∧ (({} : Engine).generate terms).outcome = .ok s := by
  refine (bind_fst_eq_ok_iff (f := fun terms =>
    Command.asRefused (({} : Engine).generate terms).outcome)).trans ?_
  simp only [Command.asRefused, mapError_eq_ok_iff]

end TermOptions
end AddOnLoan
