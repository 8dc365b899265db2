import AddOnLoan.Proofs.Web.Payload

namespace AddOnLoan

structure TermParts where
  entry : CurrencyEntry
  currency : Currency
  repayments : Int
  every : Int
  unit : PeriodUnit
  amount : Decimal
  principal : Money
  rate : Decimal
  term : Int
  termUnit : PeriodUnit
  disbursed : Date
  first : Option Date
  interestFrom : Option Date

def TermParts.terms (parts : TermParts) : LoanTerms where
  principal := parts.principal
  annualRate := parts.rate
  repayments := parts.repayments
  every := parts.every
  frequency := .unit parts.unit
  term := parts.term
  termFrequency := .unit parts.termUnit
  disbursed := parts.disbursed
  firstRepayment := parts.first
  interestFrom := parts.interestFrom

namespace Payload

variable {payload : Payload} {defaultCurrency : Text} {most : Json} {terms : LoanTerms}
  {entry : CurrencyEntry}

def termUnit (payload : Payload) (unit : PeriodUnit) : Except InputError PeriodUnit :=
  match payload.optional "loanTermFrequencyType" with
  | some value => Entry.frequency value.display
  | none => .ok unit

/-- The fields hold the parts of terms. -/
structure Holds (payload : Payload) (defaultCurrency : Text) (most : Json) (parts : TermParts) :
    Prop where
  entry : payload.entry defaultCurrency = .ok parts.entry
  currency : ∃ digits, payload.digits = .ok digits ∧
    parts.entry.currency digits = .ok parts.currency
  repayments : payload.wholeNumberField "numberOfRepayments" none = .ok parts.repayments
  served : checkRepayments parts.repayments most = .ok ()
  every : payload.wholeNumberField "repaymentEvery" (some 1) = .ok parts.every
  unit : Entry.frequency ((Json.field? payload "repaymentFrequencyType").getD
    (.text "months")).display = .ok parts.unit
  amount : ∃ shown, payload.requiredText "principal" = .ok shown ∧
    Entry.number shown = .ok parts.amount
  principal : Money.of parts.currency parts.amount = .ok parts.principal
  rate : ∃ shown, payload.requiredText "annualInterestRate" = .ok shown ∧
    Entry.number shown = .ok parts.rate
  term : payload.wholeNumberField "loanTermFrequency"
    (some (parts.repayments * parts.every)) = .ok parts.term
  termUnit : payload.termUnit parts.unit = .ok parts.termUnit
  disbursed : ∃ shown, payload.requiredText "disbursementDate" = .ok shown ∧
    Entry.dateText shown = .ok parts.disbursed
  first : payload.optionalDate "firstRepaymentDate" = .ok parts.first
  interestFrom : payload.optionalDate "interestCalculatedFrom" = .ok parts.interestFrom

theorem terms_eq (payload : Payload) (defaultCurrency : Text) (most : Json) :
    payload.terms defaultCurrency most =
      payload.entry defaultCurrency >>= fun entry =>
      payload.digits >>= fun digits =>
      (entry.currency digits).mapError .money >>= fun currency =>
      payload.wholeNumberField "numberOfRepayments" none >>= fun repayments =>
      checkRepayments repayments most >>= fun _ =>
      payload.wholeNumberField "repaymentEvery" (some 1) >>= fun every =>
      (Entry.frequency ((Json.field? payload "repaymentFrequencyType").getD
        (.text "months")).display).mapError .input >>= fun unit =>
      (payload.requiredText "principal").mapError .input >>= fun shown =>
      (Entry.number shown).mapError .input >>= fun amount =>
      (Money.of currency amount).mapError .money >>= fun principal =>
      (payload.requiredText "annualInterestRate").mapError .input >>= fun shown =>
      (Entry.number shown).mapError .input >>= fun rate =>
      payload.wholeNumberField "loanTermFrequency" (some (repayments * every)) >>= fun term =>
      (payload.termUnit unit).mapError .input >>= fun termUnit =>
      (payload.requiredText "disbursementDate").mapError .input >>= fun shown =>
      (Entry.dateText shown).mapError .input >>= fun disbursed =>
      (payload.optionalDate "firstRepaymentDate").mapError .input >>= fun first =>
      (payload.optionalDate "interestCalculatedFrom").mapError .input >>= fun interestFrom =>
      .ok (TermParts.terms ⟨entry, currency, repayments, every, unit, amount, principal, rate, term,
        termUnit, disbursed, first, interestFrom⟩, entry) := by
  unfold terms termUnit
  cases payload.optional "loanTermFrequencyType" <;> rfl

theorem terms_eq_ok_iff : payload.terms defaultCurrency most = .ok (terms, entry) ↔
    ∃ parts : TermParts, payload.Holds defaultCurrency most parts ∧
      terms = parts.terms ∧ entry = parts.entry := by
  simp only [terms_eq, bind_eq_ok_iff, mapError_eq_ok_iff, Except.ok.injEq, Prod.mk.injEq]
  constructor
  · rintro ⟨_, hentry, digits, hdigits, _, hcurrency, _, hrepayments, _, hserved, _, hevery,
      _, hunit, shown, hshown, _, hamount, _, hprincipal, shown', hshown', _, hrate, _, hterm,
      _, htermUnit, shown'', hshown'', _, hdisbursed, _, hfirst, _, hinterestFrom, rfl, rfl⟩
    exact ⟨⟨_, _, _, _, _, _, _, _, _, _, _, _, _⟩, ⟨hentry, ⟨digits, hdigits, hcurrency⟩,
      hrepayments, hserved, hevery, hunit, ⟨shown, hshown, hamount⟩, hprincipal,
      ⟨shown', hshown', hrate⟩, hterm, htermUnit, ⟨shown'', hshown'', hdisbursed⟩, hfirst,
      hinterestFrom⟩, rfl, rfl⟩
  · rintro ⟨parts, ⟨hentry, ⟨digits, hdigits, hcurrency⟩, hrepayments, hserved, hevery, hunit,
      ⟨shown, hshown, hamount⟩, hprincipal, ⟨shown', hshown', hrate⟩, hterm, htermUnit,
      ⟨shown'', hshown'', hdisbursed⟩, hfirst, hinterestFrom⟩, rfl, rfl⟩
    exact ⟨_, hentry, digits, hdigits, _, hcurrency, _, hrepayments, (), hserved, _, hevery, _,
      hunit, shown, hshown, _, hamount, _, hprincipal, shown', hshown', _, hrate, _, hterm, _,
      htermUnit, shown'', hshown'', _, hdisbursed, _, hfirst, _, hinterestFrom, rfl, rfl⟩

theorem wholeNumberField_bind_eq_infinite_iff {name : String} {otherwise : Option Int}
    {f : Int → Except Refusal α} :
    payload.wholeNumberField name otherwise >>= f = .error (.outOfRange .infiniteWholeNumber) ↔
      (∃ s, Json.field? payload name = some (.double (.infinity s))) ∨
        ∃ n, payload.wholeNumberField name otherwise = .ok n ∧
          f n = .error (.outOfRange .infiniteWholeNumber) := by
  rw [bind_eq_error_iff]
  refine or_congr_left ?_
  unfold wholeNumberField
  split <;> next h => simp [h, wholeNumber_eq_infinite_iff]

theorem digits_bind_eq_infinite_iff {f : Option Int → Except Refusal α} :
    payload.digits >>= f = .error (.outOfRange .infiniteWholeNumber) ↔
      (∃ s, Json.field? payload "digits" = some (.double (.infinity s))) ∨
        ∃ digits, payload.digits = .ok digits ∧
          f digits = .error (.outOfRange .infiniteWholeNumber) := by
  rw [bind_eq_error_iff]
  refine or_congr_left ?_
  unfold digits
  split <;> next h => simp [h, map_eq_error_iff, wholeNumber_eq_infinite_iff]

theorem bind_eq_infinite_iff {x : Except Refusal α} {f : α → Except Refusal β}
    (hx : x ≠ .error (.outOfRange .infiniteWholeNumber)) :
    x >>= f = .error (.outOfRange .infiniteWholeNumber) ↔
      ∃ a, x = .ok a ∧ f a = .error (.outOfRange .infiniteWholeNumber) :=
  bind_eq_error_iff.trans (or_iff_right hx)

theorem input_bind_eq_infinite_iff {x : Except InputError α} {f : α → Except Refusal β} :
    x.mapError .input >>= f = .error (.outOfRange .infiniteWholeNumber) ↔
      ∃ a, x = .ok a ∧ f a = .error (.outOfRange .infiniteWholeNumber) := by
  rw [bind_eq_infinite_iff (by simp [mapError_eq_error_iff])]
  simp only [mapError_eq_ok_iff]

theorem money_bind_eq_infinite_iff {x : Except MoneyError α} {f : α → Except Refusal β} :
    x.mapError .money >>= f = .error (.outOfRange .infiniteWholeNumber) ↔
      ∃ a, x = .ok a ∧ f a = .error (.outOfRange .infiniteWholeNumber) := by
  rw [bind_eq_infinite_iff (by simp [mapError_eq_error_iff])]
  simp only [mapError_eq_ok_iff]

def HasCurrency (payload : Payload) (defaultCurrency : Text) (currency : Currency) : Prop :=
  ∃ entry digits, payload.entry defaultCurrency = .ok entry ∧ payload.digits = .ok digits ∧
    entry.currency digits = .ok currency

def HasRepayments (payload : Payload) (most : Json) (n : Int) : Prop :=
  payload.wholeNumberField "numberOfRepayments" none = .ok n ∧ checkRepayments n most = .ok ()

def HasNumber (payload : Payload) (name : String) (x : Decimal) : Prop :=
  ∃ shown, payload.requiredText name = .ok shown ∧ Entry.number shown = .ok x

/-- The fields in front of a field of a whole number are good. -/
inductive Reaches (payload : Payload) (defaultCurrency : Text) (most : Json) : String → Prop
  | digits {entry : CurrencyEntry} (hentry : payload.entry defaultCurrency = .ok entry) :
    Reaches payload defaultCurrency most "digits"
  | repayments {currency : Currency} (hcurrency : payload.HasCurrency defaultCurrency currency) :
    Reaches payload defaultCurrency most "numberOfRepayments"
  | every {currency : Currency} {n : Int}
    (hcurrency : payload.HasCurrency defaultCurrency currency)
    (hrepayments : payload.HasRepayments most n) :
    Reaches payload defaultCurrency most "repaymentEvery"
  | term {currency : Currency} {n every : Int} {unit : PeriodUnit} {x rate : Decimal}
    {principal : Money} (hcurrency : payload.HasCurrency defaultCurrency currency)
    (hrepayments : payload.HasRepayments most n)
    (hevery : payload.wholeNumberField "repaymentEvery" (some 1) = .ok every)
    (hunit : Entry.frequency ((Json.field? payload "repaymentFrequencyType").getD
      (.text "months")).display = .ok unit)
    (hamount : payload.HasNumber "principal" x) (hprincipal : Money.of currency x = .ok principal)
    (hrate : payload.HasNumber "annualInterestRate" rate) :
    Reaches payload defaultCurrency most "loanTermFrequency"

/-- No terms are read, since there is an infinity where a whole number should be, exactly if the
reading comes to one. -/
theorem terms_eq_infinite_iff {most : Int} :
    payload.terms defaultCurrency (.int most) = .error (.outOfRange .infiniteWholeNumber) ↔
      ∃ name s, payload.Reaches defaultCurrency (.int most) name ∧
        Json.field? payload name = some (.double (.infinity s)) := by
  have hentry : payload.entry defaultCurrency ≠ .error (.outOfRange .infiniteWholeNumber) :=
    fun h => by cases (Entry.currency_yields _).cause h
  have hserved (n : Int) :
      checkRepayments n (.int most) ≠ .error (.outOfRange .infiniteWholeNumber) := by
    unfold checkRepayments
    split <;> simp [Json.isBelow?, Json.wholeNumber?] at *
  simp only [terms_eq, bind_eq_infinite_iff hentry, digits_bind_eq_infinite_iff,
    money_bind_eq_infinite_iff, wholeNumberField_bind_eq_infinite_iff,
    bind_eq_infinite_iff (hserved _), input_bind_eq_infinite_iff, reduceCtorEq, and_false,
    exists_false, or_false]
  constructor
  · rintro ⟨entry, hentry, ⟨s, hs⟩ | ⟨digits, hdigits, currency, hcurrency, ⟨s, hs⟩ |
      ⟨n, hn, ⟨⟩, hserved, ⟨s, hs⟩ | ⟨every, hevery, unit, hunit, shown, hshown, x, hx, principal,
        hprincipal, shown', hshown', rate, hrate, s, hs⟩⟩⟩⟩
    · exact ⟨_, s, .digits hentry, hs⟩
    · exact ⟨_, s, .repayments ⟨entry, digits, hentry, hdigits, hcurrency⟩, hs⟩
    · exact ⟨_, s, .every ⟨entry, digits, hentry, hdigits, hcurrency⟩ ⟨hn, hserved⟩, hs⟩
    · exact ⟨_, s, .term ⟨entry, digits, hentry, hdigits, hcurrency⟩ ⟨hn, hserved⟩ hevery hunit
        ⟨shown, hshown, hx⟩ hprincipal ⟨shown', hshown', hrate⟩, hs⟩
  · rintro ⟨name, s, hentry | ⟨entry, digits, hentry, hdigits, hcurrency⟩ |
      ⟨⟨entry, digits, hentry, hdigits, hcurrency⟩, hn, hserved⟩ |
      ⟨⟨entry, digits, hentry, hdigits, hcurrency⟩, ⟨hn, hserved⟩, hevery, hunit,
        ⟨shown, hshown, hx⟩, hprincipal, shown', hshown', hrate⟩, hs⟩
    · exact ⟨_, hentry, .inl ⟨s, hs⟩⟩
    · exact ⟨_, hentry, .inr ⟨_, hdigits, _, hcurrency, .inl ⟨s, hs⟩⟩⟩
    · exact ⟨_, hentry, .inr ⟨_, hdigits, _, hcurrency, .inr ⟨_, hn, (), hserved, .inl ⟨s, hs⟩⟩⟩⟩
    · exact ⟨_, hentry, .inr ⟨_, hdigits, _, hcurrency, .inr ⟨_, hn, (), hserved, .inr ⟨_, hevery,
        _, hunit, _, hshown, _, hx, _, hprincipal, _, hshown', _, hrate, s, hs⟩⟩⟩⟩

theorem code_of_terms (h : payload.terms defaultCurrency most = .ok (terms, entry)) :
    entry.code = terms.currency.code := by
  obtain ⟨parts, hparts, rfl, rfl⟩ := terms_eq_ok_iff.1 h
  obtain ⟨digits, -, hcurrency⟩ := hparts.currency
  have hprincipal : parts.principal.currency = parts.currency :=
    (Money.quantize_eq_ok ((Money.of_some _ _ .halfEven).symm.trans hparts.principal)).1
  rw [← (parts.entry.currency_yields digits).result hcurrency, ← hprincipal]
  rfl

end Payload
end AddOnLoan
