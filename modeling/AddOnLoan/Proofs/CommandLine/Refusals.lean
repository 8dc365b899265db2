import AddOnLoan.Proofs.CommandLine.Terms
import AddOnLoan.Proofs.Entry.Scaled
import AddOnLoan.Proofs.Money.Quotients

namespace AddOnLoan

theorem Entry.amount_yields (t : Text) :
    Yields (Entry.amount t) (fun x => x.isFinite)
      (fun e => (∃ shown, e = .notANumber shown) ∨ e = .signal .overflow) := by
  unfold Entry.amount
  rcases Entry.scale (t.strip.lower.mapPlain Entry.withoutCommas) with ⟨factor, body⟩
  dsimp only
  split
  · next x hx =>
    have hfinite := (Entry.number_yields body).result hx
    split
    · exact .ok hfinite
    · obtain ⟨s, c, e, rfl⟩ := Decimal.eq_finite hfinite
      refine Yields.mapError ⟨fun h => ?_, fun h => ?_⟩
      · obtain ⟨c', e', rfl, -⟩ := Context.mul_shape h
        rfl
      · rw [Decimal.ofNat, Context.mul_finite] at h
        rw [(Context.round_eq_error (by decide) h).1]
        exact .inr rfl
  · exact .error (.inl ⟨body, rfl⟩)

namespace CommandError

/-- What a command says of the values it was given, or of the loan they ask for. -/
def isReported : CommandError → Bool
  | badValue .. | refused _ => true
  | _ => false

/-- What stops the making of a schedule: it is reported, or no command expects it. -/
def IsOfSchedule (e : CommandError) : Prop := e.isReported ∨ ∃ r, e = .unexpected r

section

variable {about : Refusal → Bool} {report : Refusal → CommandError}
  (hreport : ∀ r, (report r).isReported)

include hreport

theorem mapError_yields (x : Except Refusal α) :
    Yields (x.mapError fun r => if about r then report r else .unexpected r) (fun _ => True)
      IsOfSchedule := by
  refine .mapError ⟨fun _ => trivial, fun {r} _ => ?_⟩
  split
  · exact .inl (hreport r)
  · exact .inr ⟨r, rfl⟩

theorem mapError_eq_unexpected_iff {x : Except Refusal α} {r : Refusal} :
    (x.mapError fun r => if about r then report r else .unexpected r) = .error (.unexpected r) ↔
      x = .error r ∧ about r = false := by
  rw [mapError_eq_error_iff]
  constructor
  · rintro ⟨r', hr', h⟩
    split at h
    · have hreported := hreport r'
      rw [h] at hreported
      cases hreported
    · next habout =>
      cases h
      exact ⟨hr', Bool.eq_false_iff.2 habout⟩
  · rintro ⟨h, habout⟩
    exact ⟨r, h, by rw [habout]; rfl⟩

end

end CommandError

namespace TermOptions

variable {o : TermOptions} {terms : LoanTerms} {entry : CurrencyEntry} {p : Text} {r : Refusal}

/-- The options are those of a command, where each value that is no number is a text. -/
structure Texts (o : TermOptions) : Prop where
  principal : ∃ t, o.principal = .text t
  currency : ∃ t, o.currency = .text t

def term (o : TermOptions) : Int := o.loanTerm.getD (o.repayments * o.every)

def withPrincipal (o : TermOptions) (t : Text) : TermOptions := { o with principal := .text t }

theorem asBadValue_bind_eq_unexpected_iff {x : Except Refusal α} {f : α → Except CommandError β}
    (hx : Yields x (fun _ => True) fun r => r.kind.isAboutInput) :
    asBadValue x >>= f = .error (.unexpected r) ↔
      ∃ a, x = .ok a ∧ f a = .error (.unexpected r) := by
  rw [bind_eq_error_iff, or_iff_right fun h => ?_]
  · simp only [asBadValue_eq_ok_iff]
  · obtain ⟨hr, hkind⟩ := (CommandError.mapError_eq_unexpected_iff fun _ => rfl).1 h
    cases hkind.symm.trans (hx.cause hr)

theorem asBadValue_input_bind_eq_unexpected_iff {x : Except InputError α}
    {f : α → Except CommandError β} :
    asBadValue (x.mapError .input) >>= f = .error (.unexpected r) ↔
      ∃ a, x = .ok a ∧ f a = .error (.unexpected r) := by
  rw [asBadValue_bind_eq_unexpected_iff (.mapError ⟨fun _ => trivial, fun _ => rfl⟩)]
  simp only [mapError_eq_ok_iff]

theorem amount_eq_error_iff {e : CommandError} : amount (.text p) = .error e ↔
    (∃ shown, Entry.amount p = .error (.notANumber shown) ∧ e = .badValue [] (.amount shown)) ∨
      ∃ s, Entry.amount p = .error (.signal s) ∧ e = .unexpected (.signal s) := by
  simp only [amount, mapError_eq_error_iff]
  constructor
  · rintro ⟨shown | s, h, rfl⟩
    · exact .inl ⟨shown, h, rfl⟩
    · exact .inr ⟨s, h, rfl⟩
  · rintro (⟨shown, h, rfl⟩ | ⟨s, h, rfl⟩) <;> exact ⟨_, h, rfl⟩

theorem amount_bind_eq_unexpected_iff {currency : Currency} {f : Decimal → Money → β} :
    (amount (.text p) >>= fun x => asBadValue ((Money.of currency x).mapError .money) >>= fun m =>
      .ok (f x m)) = .error (.unexpected r) ↔
      Entry.amount p = .error (.signal .overflow) ∧ r = .signal .overflow := by
  have hyields := Entry.amount_yields p
  refine bind_eq_error_iff.trans ⟨?_, ?_⟩
  · rintro (h | ⟨x, hx, h⟩)
    · rcases amount_eq_error_iff.1 h with ⟨shown, -, h⟩ | ⟨s, hs, h⟩
      · cases h
      · cases h
        rcases hyields.cause hs with ⟨shown, h⟩ | h
        · cases h
        · cases h
          exact ⟨hs, rfl⟩
    · obtain ⟨s, c, e, rfl⟩ := Decimal.eq_finite (hyields.result (amount_eq_ok_iff.1 hx))
      have hof : Yields (Money.of currency (.finite s c e)) (fun _ => True)
          (fun e => (Refusal.money e).kind.isAboutInput) := by
        refine (Money.of_finite_yields currency s c e .halfEven).mono (fun _ _ => trivial) ?_
        rintro _ ⟨x, rfl⟩
        rfl
      obtain ⟨m, -, h⟩ := (asBadValue_bind_eq_unexpected_iff (.mapError hof)).1 h
      cases h
  · rintro ⟨h, rfl⟩
    exact .inl (amount_eq_error_iff.2 (.inr ⟨_, h, rfl⟩))

theorem exists_of_zero (currency : Currency) :
    ∃ m, Money.of currency (.finite false 0 0) = .ok m :=
  ⟨_, (Money.of_some ..).trans (Money.quantize_of_ok rfl)⟩

/-- Reading stops without a message exactly if everything but the principal can be read, and the
letter of the principal makes it too large. -/
theorem terms_eq_unexpected_iff (htexts : o.Texts) (hprincipal : o.principal = .text p) :
    o.terms = .error (.unexpected r) ↔ (∃ parts, (o.withPrincipal "0").Holds parts) ∧
      Entry.amount p = .error (.signal .overflow) ∧ r = .signal .overflow := by
  obtain ⟨code, hcode⟩ := htexts.currency
  have hplaces (entry : CurrencyEntry) : Yields ((entry.currency o.digits).mapError .money)
      (fun _ => True) (fun r : Refusal => r.kind.isAboutInput) :=
    .mapError ((entry.currency_yields o.digits).mono (fun _ _ => trivial) fun _ h => h)
  have hzero : amount (.text "0") = .ok (.finite false 0 0) := by
    apply amount_eq_ok_iff.2
    decide +kernel
  -- all that is read before the amount has to be there
  rw [terms_eq, hcode, hprincipal, asBadValue_bind_eq_unexpected_iff (Entry.currency_yields code)]
  simp only [asBadValue_input_bind_eq_unexpected_iff,
    asBadValue_bind_eq_unexpected_iff (hplaces _), mapError_eq_ok_iff]
  constructor
  · rintro ⟨entry, hentry, unit, hunit, termUnit, htermUnit, disbursed, hdisbursed, first, hfirst,
      rate, hrate, currency, hcurrency, h⟩
    obtain ⟨m, hm⟩ := exists_of_zero currency
    exact ⟨⟨⟨entry, currency, o.repayments, o.every, unit, .finite false 0 0, m, rate, o.term,
      termUnit, disbursed, first, none⟩, ⟨(congrArg Entry.currency hcode).trans hentry, hunit,
      htermUnit, hdisbursed, hfirst, hrate, hcurrency, hzero, hm, rfl, rfl, rfl, rfl⟩⟩,
      amount_bind_eq_unexpected_iff.1 h⟩
  · rintro ⟨⟨parts, hparts⟩, h⟩
    exact ⟨_, (congrArg Entry.currency hcode).symm.trans hparts.entry, _, hparts.unit, _,
      hparts.termUnit, _, hparts.disbursed, _, hparts.first, _, hparts.rate, _, hparts.currency,
      amount_bind_eq_unexpected_iff.2 h⟩

theorem plain_of_terms (htexts : o.Texts) (h : o.terms = .ok (terms, entry)) : terms.Plain := by
  obtain ⟨t, ht⟩ := htexts.principal
  obtain ⟨parts, hparts, rfl, -⟩ := terms_eq_ok_iff.1 h
  have hamount := hparts.amount
  rw [ht, amount_eq_ok_iff] at hamount
  obtain ⟨s, c, e, hfinite⟩ := Decimal.eq_finite ((Entry.amount_yields t).result hamount)
  have hprincipal := hparts.principal
  rw [hfinite] at hprincipal
  have hshort := (Money.of_finite_yields _ _ _ _ _).result hprincipal
  have hcurrency : parts.principal.currency = parts.currency := hshort.held.currency
  rw [← hcurrency] at hshort
  exact ⟨hshort, (Entry.number_yields o.rate).result hparts.rate, _, rfl⟩

theorem counts_of_terms (h : o.terms = .ok (terms, entry)) :
    terms.repayments = o.repayments ∧ terms.every = o.every ∧ terms.term = o.term := by
  obtain ⟨parts, hparts, rfl, -⟩ := terms_eq_ok_iff.1 h
  exact ⟨hparts.repayments, hparts.every, hparts.term⟩

def HasLongCount (o : TermOptions) : Prop :=
  ∃ n ∈ [o.repayments, o.every, o.term], longestNumeral < digitCount n.natAbs

theorem hasLongCount_of_meets (hterms : o.terms = .ok (terms, entry))
    (h : Engine.MeetsLongCount terms) : o.HasLongCount := by
  obtain ⟨hrepayments, hevery, hterm⟩ := counts_of_terms hterms
  rcases h with hrefused | ⟨-, hlong⟩
  · rcases hrefused with ⟨-, hlong⟩ | ⟨-, -, hlong⟩
    · exact ⟨_, .head _, hrepayments ▸ hlong⟩
    · exact ⟨_, .tail _ (.head _), hevery ▸ hlong⟩
  · exact ⟨_, .tail _ (.tail _ (.head _)), hterm ▸ hlong⟩

/-- What a command has no message for: an amount that its letter makes too large, where all other
options can be read; the arithmetic with admitted terms; and a count that cannot be written. -/
inductive Escapes (o : TermOptions) : Refusal → Prop
  | amount {p : Text} {factor : Nat} {x : Decimal} {parts : TermParts}
    (hprincipal : o.principal = .text p) (hwritten : Entry.Written p.chars factor x)
    (hfactor : factor ≠ 1) (hlarge : Entry.amountContext.Overflows (x.toRat * factor))
    (hothers : (o.withPrincipal "0").Holds parts) : Escapes o (.signal .overflow)
  | fault {terms : LoanTerms} {entry : CurrencyEntry} {r : Refusal}
    (hterms : o.terms = .ok (terms, entry)) (h : ({} : Engine).Fault terms r) : Escapes o r
  | longCount {terms : LoanTerms} {entry : CurrencyEntry} (hterms : o.terms = .ok (terms, entry))
    (h : Engine.MeetsLongCount terms) : Escapes o (.input .longNumeral)

theorem digits_of_admits {dates : List Date} {perYear : Decimal}
    (h : Engine.Admits terms dates perYear) :
    8 + digitCount terms.term.natAbs ≤ Engine.mostDigits := by
  have hfit : digitCount terms.term.natAbs ≤ longestNumeral := of_decide_eq_true h.term_fit
  have hroom : 8 + longestNumeral ≤ Engine.mostDigits := by decide
  omega

theorem not_pastLimit (hplain : terms.Plain) : ¬({} : Engine).PastLimit terms := by
  rintro ⟨-, hperYear, hadmits, h⟩
  obtain ⟨hfinite, hzero⟩ := Engine.periodsPerYear_unit hperYear
  rcases Engine.rateForTerm_cause rfl rfl hplain.rate hfinite hzero h with h | ⟨hmany, -⟩
  · cases h
  · have hdigits := digits_of_admits hadmits
    rcases hmany with ⟨_, hroom, -⟩ | hmany
    · cases hroom
    · omega

theorem compute_eq_unexpected_iff (htexts : o.Texts) :
    o.compute = .error (.unexpected r) ↔ o.Escapes r := by
  obtain ⟨p, hprincipal⟩ := htexts.principal
  have hgenerate (terms : LoanTerms) (hplain : terms.Plain) :
      (({} : Engine).generate terms).outcome = .error r ∧ r.kind.isAboutLoan = false ↔
        ({} : Engine).Fault terms r ∨
          r = .input .ratePrecisionPastLimit ∧ ({} : Engine).PastLimit terms ∨
            r = .input .longNumeral ∧ Engine.MeetsLongCount terms :=
    Engine.generate_eq_error_iff_uncaught hplain rfl rfl
  constructor
  · intro h
    rcases bind_eq_error_iff.1 h with h | ⟨⟨terms, entry⟩, hterms, h⟩
    · obtain ⟨⟨parts, hothers⟩, hamount, rfl⟩ := (terms_eq_unexpected_iff htexts hprincipal).1 h
      obtain ⟨-, factor, x, hwritten, hfactor, hlarge⟩ := Entry.amount_eq_signal_iff.1 hamount
      exact .amount hprincipal hwritten hfactor hlarge hothers
    · rcases bind_eq_error_iff.1 h with h | ⟨s, -, h⟩
      · have hplain := plain_of_terms htexts hterms
        rcases (hgenerate terms hplain).1
          ((CommandError.mapError_eq_unexpected_iff fun _ => rfl).1 h) with
          hfault | ⟨-, hlimit⟩ | ⟨rfl, hlong⟩
        · exact .fault hterms hfault
        · exact absurd hlimit (not_pastLimit hplain)
        · exact .longCount hterms hlong
      · cases h
  · rintro (⟨hprincipal', hwritten, hfactor, hlarge, hothers⟩ | ⟨hterms, hfault⟩ | ⟨hterms, hlong⟩)
    · have hamount := Entry.amount_eq_signal_iff.2 ⟨rfl, _, _, hwritten, hfactor, hlarge⟩
      exact bind_eq_error_iff.2
        (.inl ((terms_eq_unexpected_iff htexts hprincipal').2 ⟨⟨_, hothers⟩, hamount, rfl⟩))
    all_goals
      refine bind_eq_error_iff.2 (.inr ⟨_, hterms, bind_eq_error_iff.2 (.inl ?_)⟩)
      apply (CommandError.mapError_eq_unexpected_iff fun _ => rfl).2
      apply (hgenerate _ (plain_of_terms htexts hterms)).2
    · exact .inl hfault
    · exact .inr (.inr ⟨rfl, hlong⟩)

/-- Only an exponent out of range escapes, and a count with too many digits. -/
theorem Escapes.kind (h : o.Escapes r) :
    r.kind = .signal .overflow ∨ r = .input .longNumeral ∧ o.HasLongCount := by
  cases h with
  | amount => exact .inl rfl
  | fault hterms hfault =>
    obtain ⟨-, -, hadmits, h⟩ := hfault
    cases h with
    | rate => exact .inl rfl
    | digits hdigits hmany =>
      cases hdigits
      have hdigits := digits_of_admits hadmits
      rcases hmany with ⟨_, hroom, -⟩ | hmany
      · cases hroom
      · omega
    | interest => exact .inl rfl
  | longCount hterms hlong => exact .inr ⟨rfl, hasLongCount_of_meets hterms hlong⟩

theorem terms_yields (o : TermOptions) :
    Yields o.terms (fun _ => True) CommandError.IsOfSchedule := by
  have hvalue {α : Type} (x : Except Refusal α) :
      Yields (asBadValue x) (fun _ => True) CommandError.IsOfSchedule :=
    CommandError.mapError_yields (fun _ => rfl) x
  have hamount : Yields (amount o.principal) (fun _ => True) CommandError.IsOfSchedule := by
    unfold amount
    split
    · refine .mapError ⟨fun _ => trivial, fun {e} _ => ?_⟩
      cases e with
      | notANumber shown => exact .inl rfl
      | signal s => exact .inr ⟨_, rfl⟩
    · exact .error (.inr ⟨_, rfl⟩)
  rw [terms_eq]
  iterate 7 refine (hvalue _).bind fun _ _ => ?_
  exact hamount.bind fun _ _ => (hvalue _).bind fun _ _ => .ok trivial

theorem compute_yields (o : TermOptions) :
    Yields o.compute (fun _ => True) CommandError.IsOfSchedule :=
  o.terms_yields.bind fun _ _ =>
    (CommandError.mapError_yields (fun _ => rfl) _).bind fun _ _ => .ok trivial

/-- The values of options for which there is a schedule or a message are exactly those from which
nothing escapes. All that can escape is an exponent out of range or a count that cannot be
written. -/
theorem reports_iff_not_escapes (htexts : o.Texts) :
    ((∃ found, o.compute = .ok found) ∨ (∃ e, o.compute = .error e ∧ e.isReported) ↔
        ∀ r, ¬o.Escapes r) ∧
      (∀ r, o.compute = .error (.unexpected r) ↔ o.Escapes r) ∧
      ∀ r, o.Escapes r →
        r.kind = .signal .overflow ∨ r = .input .longNumeral ∧ o.HasLongCount := by
  have hescapes (r : Refusal) := compute_eq_unexpected_iff htexts (r := r)
  refine ⟨⟨?_, fun h => ?_⟩, hescapes, fun r => Escapes.kind⟩
  · intro h r hr
    have herror := (hescapes r).2 hr
    rcases h with ⟨found, hfound⟩ | ⟨e, he, hreported⟩
    · cases hfound.symm.trans herror
    · cases he.symm.trans herror
      cases hreported
  · cases hcompute : o.compute with
    | ok found => exact .inl ⟨found, rfl⟩
    | error e =>
      rcases o.compute_yields.cause hcompute with hreported | ⟨r, rfl⟩
      · exact .inr ⟨e, rfl, hreported⟩
      · exact absurd ((hescapes r).1 hcompute) (h r)

def hugeAmount : TermOptions where
  principal := .text "1e999999k"
  rate := "12"
  repayments := 3
  disbursementDate := "2024-01-01"

theorem texts_hugeAmount : hugeAmount.Texts := ⟨⟨_, rfl⟩, ⟨_, rfl⟩⟩

set_option maxRecDepth 10000 in
theorem compute_hugeAmount : hugeAmount.compute = .error (.unexpected (.signal .overflow)) := by
  have h : (match hugeAmount.compute with
      | .error e => decide (e = .unexpected (.signal .overflow))
      | .ok _ => false) = true := by
    decide +kernel
  split at h
  · next e he => rw [he, of_decide_eq_true h]
  · cases h

theorem escapes_hugeAmount : hugeAmount.Texts ∧ hugeAmount.Escapes (.signal .overflow) :=
  ⟨texts_hugeAmount, ((reports_iff_not_escapes texts_hugeAmount).2.1 _).1 compute_hugeAmount⟩

theorem not_reported_hugeAmount : hugeAmount.Texts ∧
    ¬((∃ found, hugeAmount.compute = .ok found) ∨
      ∃ e, hugeAmount.compute = .error e ∧ e.isReported) := by
  refine ⟨texts_hugeAmount, ?_⟩
  rw [compute_hugeAmount]
  rintro (⟨found, h⟩ | ⟨e, h, hreported⟩)
  · cases h
  · cases h
    cases hreported

end TermOptions

end AddOnLoan
