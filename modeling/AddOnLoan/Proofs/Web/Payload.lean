import AddOnLoan.Proofs.Engine.Faults
import AddOnLoan.Web.Payload

namespace AddOnLoan

theorem Entry.number_yields (t : Text) :
    Yields (Entry.number t) (fun x => x.isFinite) fun _ => True := by
  unfold Entry.number
  split
  · split
    · next hfinite => exact .ok hfinite
    · exact .error trivial
  · exact .error trivial

theorem Entry.currency_yields (code : Text) :
    Yields (Entry.currency (.text code)) (fun _ => True) fun r => r.kind.isAboutInput := by
  simp only [Entry.currency]
  split
  · exact .ok trivial
  · exact .error rfl

theorem CurrencyEntry.currency_yields (entry : CurrencyEntry) (places : Option Int) :
    Yields (entry.currency places) (fun c => c.code = entry.code)
      fun e => (Refusal.money e).kind.isAboutInput := by
  unfold CurrencyEntry.currency Currency.make?
  split
  · exact .ok rfl
  · refine .error ?_
    split <;> rfl

namespace Payload

variable {payload : Payload}

/-- Reading stops with a message, or at an infinity in place of a whole number. -/
def Stops (r : Refusal) : Prop := r.kind.isAboutInput ∨ r = .outOfRange .infiniteWholeNumber

theorem wholeNumber_yields (name : String) (value : Json) :
    Yields (wholeNumber name value) (fun _ => True) Stops := by
  unfold wholeNumber
  split
  case h_3 => exact .error (.inr rfl)
  case h_4 | h_5 =>
    split
    · exact .ok trivial
    · exact .error (.inl rfl)
  all_goals first | exact .ok trivial | exact .error (.inl rfl)

theorem wholeNumber_eq_infinite_iff {name : String} {value : Json} :
    wholeNumber name value = .error (.outOfRange .infiniteWholeNumber) ↔
      ∃ s, value = .double (.infinity s) := by
  unfold wholeNumber
  split
  case h_3 s => exact ⟨fun _ => ⟨s, rfl⟩, fun _ => rfl⟩
  case h_4 hfinite =>
    refine ⟨fun h => ?_, fun ⟨s, h⟩ => ?_⟩
    · split at h <;> cases h
    · cases h
      exact (hfinite s rfl).elim
  case h_5 => split <;> simp
  all_goals simp

theorem wholeNumberField_yields (name : String) (otherwise : Option Int) :
    Yields (payload.wholeNumberField name otherwise) (fun _ => True) Stops := by
  unfold wholeNumberField
  split
  · exact .ok trivial
  · exact .error (.inl rfl)
  · exact .error (.inl rfl)
  · exact wholeNumber_yields _ _

theorem digits_yields : Yields payload.digits (fun _ => True) Stops := by
  unfold digits
  split
  · exact .ok trivial
  · exact .ok trivial
  · exact (wholeNumber_yields _ _).map

theorem entry_yields (currency : Text) :
    Yields (payload.entry currency) (fun _ => True) Stops := by
  unfold entry
  exact (Entry.currency_yields _).mono_cause fun _ => .inl

theorem checkRepayments_yields (repayments most : Int) :
    Yields (checkRepayments repayments (.int most)) (fun _ => True) Stops := by
  unfold checkRepayments
  split
  · next hnone => cases hnone
  · exact .error (.inl rfl)
  · exact .ok trivial

theorem input_yields (x : Except InputError α) :
    Yields (x.mapError .input) (fun _ => True) Stops :=
  .mapError ⟨fun _ => trivial, fun _ => .inl rfl⟩

theorem terms_yields (payload : Payload) (currency : Text) (most : Int) :
    Yields (payload.terms currency (.int most))
      (fun read => read.1.Plain ∧ read.2.code = read.1.currency.code) Stops := by
  unfold terms
  -- the fields are read in this order, and the first that cannot be read ends it
  refine (entry_yields currency).bind fun entry _ => ?_
  refine digits_yields.bind fun digits _ => ?_
  refine Yields.bind (Yields.mapError
    ((entry.currency_yields digits).mono_cause fun _ => .inl)) fun currency hcode => ?_
  refine (wholeNumberField_yields _ _).bind fun repayments _ => ?_
  refine (checkRepayments_yields repayments most).bind fun _ _ => ?_
  refine (wholeNumberField_yields _ _).bind fun every _ => ?_
  refine (input_yields _).bind fun unit _ => ?_
  refine (input_yields _).bind fun principalText _ => ?_
  refine Yields.bind (Yields.mapError
    ((Entry.number_yields principalText).mono_cause fun _ _ => .inl rfl)) fun x hx => ?_
  obtain ⟨s, c, e, rfl⟩ := Decimal.eq_finite hx
  refine Yields.bind (Yields.mapError
    ((Money.of_finite_yields currency s c e .halfEven).mono_cause ?_))
    fun principal hprincipal => ?_
  · rintro _ ⟨x, rfl⟩
    exact .inl rfl
  refine (input_yields _).bind fun rateText _ => ?_
  refine Yields.bind (Yields.mapError
    ((Entry.number_yields rateText).mono_cause fun _ _ => .inl rfl)) fun rate hrate => ?_
  refine (wholeNumberField_yields _ _).bind fun term _ => ?_
  obtain rfl : principal.currency = currency := hprincipal.held.currency
  -- the unit of the term is that of the repayments where none is given
  dsimp only
  split
  on_goal 1 => refine (input_yields _).bind fun termUnit _ => ?_
  on_goal 2 => refine .ok_bind rfl ?_
  all_goals
    refine (input_yields _).bind fun disbursedText _ => ?_
    refine (input_yields _).bind fun disbursed _ => ?_
    refine (input_yields _).bind fun first _ => ?_
    refine (input_yields _).bind fun interestFrom _ => ?_
    exact .ok ⟨⟨hprincipal, hrate, _, rfl⟩, hcode.symm⟩

end Payload
end AddOnLoan
