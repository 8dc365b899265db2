import AddOnLoan.Proofs.Money.Making
import AddOnLoan.Proofs.Money.Summation

namespace AddOnLoan
namespace Money

variable {c : Currency} {m n r : Money} {x : Decimal} {rounding : Option Rounding}

inductive Source where
  | zero (c : Currency)
  | rounded (c : Currency) (x : Decimal) (rounding : Option Rounding)

namespace Source

def currency : Source → Currency
  | zero c | rounded c _ _ => c

def IsFinite : Source → Prop
  | zero _ => True
  | rounded _ x _ => x.isFinite

def make : Source → Except MoneyError Money
  | zero c => .ok (.zero c)
  | rounded c x rounding => Money.of c x rounding

end Source

inductive Step where
  | plus (operand : Source)
  | minus (operand : Source)
  | times (factor : Decimal) (rounding : Option Rounding)
  | dividedBy (divisor : Decimal) (rounding : Option Rounding)
  | abs
  | negated
  | replacedBy (source : Source)

namespace Step

def IsFinite : Step → Prop
  | plus source | minus source | replacedBy source => source.IsFinite
  | times x _ | dividedBy x _ => x.isFinite
  | abs | negated => True

def Replaces : Step → Prop
  | replacedBy _ => True
  | _ => False

def apply (m : Money) : Step → Except MoneyError Money
  | plus operand => do m.plus (← operand.make)
  | minus operand => do m.minus (← operand.make)
  | times factor rounding => m.times factor rounding
  | dividedBy divisor rounding => m.dividedBy divisor rounding
  | abs => .ok m.abs
  | negated => .ok m.negated
  | replacedBy source => source.make

/-- An operation that fails leaves the amount as it was. -/
def after (m : Money) (step : Step) : Money :=
  match step.apply m with
  | .ok r => r
  | .error _ => m

end Step

def run (m : Money) (steps : List Step) : Money := steps.foldl Step.after m

/-- How every amount is held: at the last place of its currency and with no more than fifty digits,
so that rounding it again in any direction gives it back, and with exactly one sign. -/
structure Kept (m : Money) : Prop where
  shape : ∃ s n, m.amount = .finite s n (-(m.currency.places : Int)) ∧ digitCount n ≤ 50
  again : ∀ mode, of m.currency m.amount (some mode) = .ok m
  sign : ∃ zero positive negative, m.isZero = .ok zero ∧ m.isPositive = .ok positive ∧
    m.isNegative = .ok negative ∧ [zero, positive, negative].count true = 1

theorem shortIn_of (hx : x.isFinite) (h : of c x rounding = .ok r) : r.ShortIn c := by
  obtain ⟨s, n, e, rfl⟩ := Decimal.eq_finite hx
  cases rounding with
  | none => cases h
  | some mode => exact (of_finite_yields c s n e mode).result h

theorem Source.shortIn {source : Source} (hfinite : source.IsFinite) (h : source.make = .ok r) :
    r.ShortIn source.currency := by
  cases source with
  | zero c =>
    cases h
    exact (closedUnderSums_shortIn c).zero
  | rounded c x rounding => exact shortIn_of hfinite h

theorem shortIn_of_times (hm : m.HeldIn c) (hx : x.isFinite) (h : m.times x rounding = .ok r) :
    r.ShortIn c := by
  obtain ⟨s, n, e, rfl⟩ := Decimal.eq_finite hx
  cases rounding with
  | none =>
    obtain ⟨_, -, hr⟩ := bind_eq_ok_iff.1 h
    cases hr
  | some mode => exact (times_yields hm mode).result h

theorem shortIn_of_dividedBy (hm : m.HeldIn c) (hx : x.isFinite)
    (h : m.dividedBy x rounding = .ok r) : r.ShortIn c := by
  obtain ⟨s', n, e', rfl⟩ := Decimal.eq_finite hx
  obtain ⟨isZero, hzero, h⟩ := bind_eq_ok_iff.1 h
  cases hzero
  split at h
  · cases h
  · next hn =>
    obtain ⟨quotient, hquotient, hr⟩ := bind_eq_ok_iff.1 h
    have hdiv := mapError_eq_ok_iff.1 hquotient
    obtain ⟨s, a, e, hamount⟩ := Decimal.eq_finite hm.finite
    rw [hamount] at hdiv
    obtain ⟨q, e'', rfl, -⟩ := Context.div_shape (by simpa using hn) hdiv
    exact hm.currency ▸ shortIn_of rfl hr

theorem ShortIn.abs (hm : m.ShortIn c) : m.abs.ShortIn c := by
  obtain ⟨s, n, h⟩ := eq_ofMinor hm.held.finite
  have hshort := hm.short
  rw [h, minor_ofMinor, Decimal.natAbs_signed] at hshort
  rw [h]
  exact ⟨⟨rfl, hm.held.currency⟩, hshort⟩

theorem ShortIn.negated (hm : m.ShortIn c) : m.negated.ShortIn c := by
  obtain ⟨hheld, hminor⟩ := hm.held.negated
  exact ⟨hheld, by rw [hminor, Int.natAbs_neg]; exact hm.short⟩

namespace Step

variable {step : Step}

/-- Each operation leads from amounts of at most fifty digits to such an amount, in the same
currency unless the amount is replaced. -/
theorem apply_shortIn (hm : m.ShortIn c) (hfinite : step.IsFinite) (h : step.apply m = .ok r) :
    r.ShortIn r.currency ∧ (¬step.Replaces → r.currency = c) := by
  have hsame : r.ShortIn c → r.ShortIn r.currency ∧ (¬step.Replaces → r.currency = c) :=
    fun hr => ⟨hr.held.currency ▸ hr, fun _ => hr.held.currency⟩
  have hcurrency := hm.held.currency
  cases step with
  | plus operand =>
    obtain ⟨n, hn, hr⟩ := bind_eq_ok_iff.1 h
    have hn := operand.shortIn hfinite hn
    rw [← hn.held.currency, currency_of_plus hr, hcurrency] at hn
    exact hsame (((closedUnderSums_shortIn c).plus m n hm hn).result hr)
  | minus operand =>
    obtain ⟨n, hn, hr⟩ := bind_eq_ok_iff.1 h
    have hn := operand.shortIn hfinite hn
    rw [← hn.held.currency, currency_of_minus hr, hcurrency] at hn
    exact hsame (((closedUnderSums_shortIn c).minus m n hm hn).result hr)
  | times factor rounding => exact hsame (shortIn_of_times hm.held hfinite h)
  | dividedBy divisor rounding => exact hsame (shortIn_of_dividedBy hm.held hfinite h)
  | abs =>
    cases h
    exact hsame hm.abs
  | negated =>
    cases h
    exact hsame hm.negated
  | replacedBy source =>
    have hr := source.shortIn hfinite h
    exact ⟨hr.held.currency ▸ hr, fun hnot => absurd trivial hnot⟩

theorem after_shortIn (hm : m.ShortIn m.currency) (hfinite : step.IsFinite) :
    (after m step).ShortIn (after m step).currency ∧
      (¬step.Replaces → (after m step).currency = m.currency) := by
  unfold after
  split
  · next r h => exact apply_shortIn hm hfinite h
  · exact ⟨hm, fun _ => rfl⟩

end Step

variable {steps : List Step}

theorem run_append (m : Money) (before after : List Step) :
    run m (before ++ after) = run (run m before) after := List.foldl_append

theorem run_shortIn (hm : m.ShortIn m.currency) (hfinite : ∀ step ∈ steps, step.IsFinite) :
    (run m steps).ShortIn (run m steps).currency := by
  induction steps generalizing m with
  | nil => exact hm
  | cons step rest ih =>
    rw [List.forall_mem_cons] at hfinite
    exact ih (Step.after_shortIn hm hfinite.1).1 hfinite.2

theorem currency_run (hm : m.ShortIn m.currency) (hfinite : ∀ step ∈ steps, step.IsFinite)
    (hkeeps : ∀ step ∈ steps, ¬step.Replaces) : (run m steps).currency = m.currency := by
  induction steps generalizing m with
  | nil => rfl
  | cons step rest ih =>
    rw [List.forall_mem_cons] at hfinite hkeeps
    obtain ⟨hshort, hcurrency⟩ := Step.after_shortIn hm hfinite.1
    exact (ih hshort hfinite.2 hkeeps.2).trans (hcurrency hkeeps.1)

theorem exists_sign (c : Currency) (s : Bool) (n : Nat) : ∃ zero positive negative,
    (ofMinor c s n).isZero = .ok zero ∧ (ofMinor c s n).isPositive = .ok positive ∧
      (ofMinor c s n).isNegative = .ok negative ∧ [zero, positive, negative].count true = 1 := by
  cases n with
  | zero => exact ⟨true, false, false, rfl, rfl, rfl, rfl⟩
  | succ n =>
    cases s with
    | false => exact ⟨false, true, false, rfl, rfl, rfl, rfl⟩
    | true => exact ⟨false, false, true, rfl, rfl, rfl, rfl⟩

theorem ShortIn.kept (hm : m.ShortIn m.currency) : m.Kept := by
  obtain ⟨s, n, h⟩ := eq_ofMinor hm.held.finite
  have hshort := hm.short
  rw [h, minor_ofMinor, Decimal.natAbs_signed] at hshort
  rw [h]
  exact
    { shape := ⟨s, n, rfl, (digitCount_le_iff (by omega)).2 hshort⟩
      again := fun mode => (of_finite_exact m.currency s n mode).trans (if_pos hshort)
      sign := exists_sign m.currency s n }

/-- Amounts made from finite numbers are held as they should be after any operations with finite
numbers, and their currency changes only where they are replaced. -/
theorem run_kept {source : Source} (hsource : source.IsFinite)
    (hsteps : ∀ step ∈ steps, step.IsFinite) (h : source.make = .ok m) :
    m.currency = source.currency ∧ (run m steps).Kept ∧
      ∀ before after, steps = before ++ after → (∀ step ∈ after, ¬step.Replaces) →
        (run m steps).currency = (run m before).currency := by
  have hm := source.shortIn hsource h
  have hcurrency := hm.held.currency
  rw [← hcurrency] at hm
  refine ⟨hcurrency, (run_shortIn hm hsteps).kept, ?_⟩
  rintro before after rfl hkeeps
  rw [List.forall_mem_append] at hsteps
  rw [run_append]
  exact currency_run (run_shortIn hm hsteps.1) hsteps.2 hkeeps

def yenSteps : List Step :=
  [.replacedBy (.rounded oneYen.currency (.ofNat 1) (some .halfEven)),
    .plus (.rounded oneYen.currency (.finite false 25 (-1)) none),
    .plus (.rounded oneYen.currency (.finite false 25 (-1)) (some .up)),
    .dividedBy (.ofNat 0) (some .halfEven), .dividedBy (.ofNat 3) (some .ceiling), .negated,
    .minus (.zero justPastHalf.currency)]

theorem run_kept_yen : ∃ r, run (zero justPastHalf.currency) yenSteps = r ∧ r.Kept ∧
    r.currency = oneYen.currency ∧ r.minor = -2 := by
  have hsource : (Source.zero justPastHalf.currency).IsFinite := trivial
  have hmake : (Source.zero justPastHalf.currency).make = .ok (zero justPastHalf.currency) := rfl
  have hsteps : ∀ step ∈ yenSteps, step.IsFinite := by
    simp [yenSteps, Step.IsFinite, Source.IsFinite, Decimal.ofNat, Decimal.isFinite]
  obtain ⟨-, hkept, hcurrency⟩ := run_kept hsource hsteps hmake
  have hyen := hcurrency (yenSteps.take 1) (yenSteps.drop 1) rfl
    (by simp [yenSteps, Step.Replaces])
  exact ⟨_, rfl, hkept, hyen.trans (by decide +kernel), by decide +kernel⟩

end Money
end AddOnLoan
