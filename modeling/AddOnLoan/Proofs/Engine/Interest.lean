import AddOnLoan.Proofs.Engine.Faults
import AddOnLoan.Proofs.Engine.Split
import AddOnLoan.Proofs.Money.Products

namespace AddOnLoan

namespace Decimal

def IsNonneg (x : Decimal) : Prop := ∃ s, x.order0 = .ok s ∧ 0 ≤ s

def IsPositive (x : Decimal) : Prop := ∃ s, x.order0 = .ok s ∧ 0 < s

variable {s : Bool} {c : Nat} {e : Int}

theorem isNonneg_finite_iff : (finite s c e).IsNonneg ↔ (s = true → c = 0) := by
  cases s <;> by_cases hc : c = 0 <;> simp [IsNonneg, order0, sign?, hc]

theorem isPositive_finite_iff : (finite s c e).IsPositive ↔ s = false ∧ c ≠ 0 := by
  cases s <;> by_cases hc : c = 0 <;> simp [IsPositive, order0, sign?, hc]

theorem isNonneg_infinity_iff : (infinity s).IsNonneg ↔ s = false := by
  cases s <;> simp [IsNonneg, order0, sign?]

theorem IsNonneg.cases {x : Decimal} (h : x.IsNonneg) :
    x = infinity false ∨ ∃ s c e, x = finite s c e ∧ (s = true → c = 0) := by
  cases x with
  | nan =>
    obtain ⟨sign, hsign, -⟩ := h
    cases hsign
  | infinity s => exact .inl (by rw [isNonneg_infinity_iff.1 h])
  | finite s c e => exact .inr ⟨s, c, e, rfl, isNonneg_finite_iff.1 h⟩

theorem isNonneg_iff_toRat {x : Decimal} (hx : x.isFinite) : x.IsNonneg ↔ 0 ≤ x.toRat := by
  obtain ⟨s, c, e, rfl⟩ := eq_finite hx
  have hpow : (0 : ℚ) < 10 ^ e := by positivity
  rw [isNonneg_finite_iff, toRat_finite, mul_nonneg_iff_of_pos_right hpow, Int.cast_nonneg_iff]
  cases s <;> simp [signed]

theorem isPositive_iff_toRat {x : Decimal} (hx : x.isFinite) : x.IsPositive ↔ 0 < x.toRat := by
  obtain ⟨s, c, e, rfl⟩ := eq_finite hx
  have hpow : (0 : ℚ) < 10 ^ e := by positivity
  rw [isPositive_finite_iff, toRat_finite, mul_pos_iff_of_pos_right hpow, Int.cast_pos]
  cases s <;> simp [signed, Nat.pos_iff_ne_zero]

end Decimal

namespace Context

variable {ctx : Context} {x y r : Decimal}

theorem isNonneg_infinity_mul (hy : y.IsNonneg)
    (h : ctx.mul (.infinity false) y = .ok r ∨ ctx.mul y (.infinity false) = .ok r) :
    r.IsNonneg := by
  rcases hy.cases with rfl | ⟨s, c, e, rfl, hs⟩
  · rcases h with h | h <;> cases h <;> exact Decimal.isNonneg_infinity_iff.2 rfl
  · cases c with
    | zero => rcases h with h | h <;> cases h
    | succ c =>
      have hpos : s = false := by
        cases s with
        | false => rfl
        | true => cases hs rfl
      subst hpos
      rcases h with h | h <;> cases h <;> exact Decimal.isNonneg_infinity_iff.2 rfl

theorem isNonneg_mul (hx : x.IsNonneg) (hy : y.IsNonneg) (h : ctx.mul x y = .ok r) :
    r.IsNonneg := by
  rcases hx.cases with rfl | ⟨s, c, e, rfl, hs⟩
  · exact isNonneg_infinity_mul hy (.inl h)
  rcases hy.cases with rfl | ⟨s', c', e', rfl, hs'⟩
  · exact isNonneg_infinity_mul hx (.inr h)
  obtain ⟨c'', e'', rfl, h0⟩ := round_shape ((mul_finite ctx s c e s' c' e').symm.trans h)
  rw [Decimal.isNonneg_finite_iff]
  intro hne
  apply h0
  cases s with
  | true => rw [hs rfl, Nat.zero_mul]
  | false =>
    cases s' with
    | true => rw [hs' rfl, Nat.mul_zero]
    | false => cases hne

theorem isNonneg_div (hx : x.IsNonneg) (hy : y.IsPositive) (h : ctx.div x y = .ok r) :
    r.IsNonneg := by
  obtain ⟨sign, hsign, -⟩ := id hy
  cases y with
  | nan => cases hsign
  | infinity s' =>
    rcases hx.cases with rfl | ⟨s, c, e, rfl, -⟩
    · cases h
    · cases h
      exact Decimal.isNonneg_finite_iff.2 fun _ => rfl
  | finite s' c' e' =>
    obtain ⟨rfl, hc'⟩ := Decimal.isPositive_finite_iff.1 hy
    rcases hx.cases with rfl | ⟨s, c, e, rfl, hs⟩
    · cases h
      exact Decimal.isNonneg_infinity_iff.2 rfl
    · obtain ⟨c'', e'', rfl, h0⟩ := div_shape hc' h
      rw [Decimal.isNonneg_finite_iff, Bool.bne_false]
      exact fun hneg => h0 (hs hneg)

end Context

namespace Money

variable {c : Currency} {m r : Money} {x : Decimal}

theorem isNonneg_amount (hm : m.HeldIn c) : m.amount.IsNonneg ↔ 0 ≤ m.minor := by
  rw [Decimal.isNonneg_iff_toRat hm.finite, toRat_nonneg hm]

theorem nonneg_of (hx : x.IsNonneg) {rounding : Option Rounding}
    (h : of c x rounding = .ok r) : 0 ≤ r.minor := by
  rcases hx.cases with rfl | ⟨s, n, e, rfl, hs⟩
  · cases rounding with
    | none => cases h
    | some mode =>
      rw [of_some] at h
      exact nomatch (quantize_eq_ok h).2
  · obtain ⟨n', rfl, h0⟩ := of_finite_eq_ok h
    cases s with
    | false => simp [Decimal.signed]
    | true => simp [Decimal.signed, h0 (hs rfl)]

end Money

namespace Engine

variable {engine : Engine} {terms : LoanTerms} {dueDates : List Date} {perYear rate : Decimal}
  {s : Shares} {mode : Rounding}

theorem isNonneg_quotient {room : Option Nat} {ctx : Context} {x y r : Decimal}
    (hx : x.IsNonneg) (hy : y.IsPositive) (h : quotient room ctx x y = .ok r) : r.IsNonneg :=
  Context.isNonneg_div hx hy (div_of_quotient h)

theorem Admits.isNonneg_rate (hadmits : Admits terms dueDates perYear)
    (h : engine.rateForTerm terms.annualRate perYear terms.term = .ok rate) : rate.IsNonneg := by
  obtain ⟨_, _, percent, unitless, _, -, -, hpercent, hunitless, -, hr⟩ := rateForTerm_eq_ok h
  have hpercent := isNonneg_quotient hadmits.rate_nonneg hadmits.perYear_pos hpercent
  have hunitless := isNonneg_quotient (y := .ofNat 100) hpercent ⟨1, rfl, one_pos⟩ hunitless
  have hterm := hadmits.term_pos
  exact Context.isNonneg_mul hunitless
    (Decimal.isNonneg_finite_iff.2 fun hneg => absurd (of_decide_eq_true hneg) (by omega)) hr

theorem totalInterest_nonneg (hadmits : Admits terms dueDates perYear)
    (h : engine.shares terms perYear = .ok s) : 0 ≤ s.totalInterest.minor := by
  obtain ⟨hrate, htotal, -, -⟩ := shares_eq_ok h
  obtain ⟨x, hx, hr⟩ := bind_eq_ok_iff.1 htotal
  have hprincipal := (Money.isNonneg_amount hadmits.principal_held).2 hadmits.principal_minor_nonneg
  exact Money.nonneg_of (Context.isNonneg_mul hprincipal (hadmits.isNonneg_rate hrate)
    (mapError_eq_ok_iff.1 hx)) hr

theorem shares_counts (hadmits : Admits terms dueDates perYear)
    (hmode : engine.rounding = some mode) (h : engine.shares terms perYear = .ok s)
    (hprincipal : terms.principal.minor < 10 ^ 49) (htotal : s.totalInterest.minor < 10 ^ 49)
    (hn : terms.repayments < 10 ^ 49) :
    s.Counts terms.currency s.totalInterest.minor
      (mode.toInt (terms.principal.minor / terms.repayments))
      (mode.toInt (s.totalInterest.minor / terms.repayments)) := by
  have hlent_held := hadmits.principal_held
  obtain ⟨htotal_held, -, -⟩ := shares_held hadmits h
  obtain ⟨-, -, hinterest, hshare⟩ := shares_eq_ok h
  have hpos : 0 < terms.repayments := hadmits.repayments_pos
  rw [hmode] at hinterest hshare
  obtain ⟨_, ha, hheld, hminor⟩ := Money.exists_dividedBy hlent_held
    (by rwa [abs_of_nonneg hadmits.principal_minor_nonneg]) hpos hn mode
  obtain ⟨_, hb, hheld', hminor'⟩ := Money.exists_dividedBy htotal_held
    (by rwa [abs_of_nonneg (totalInterest_nonneg hadmits h)]) hpos hn mode
  cases ha.symm.trans hshare
  cases hb.symm.trans hinterest
  exact ⟨⟨htotal_held, rfl⟩, ⟨hheld, hminor⟩, ⟨hheld', hminor'⟩⟩

/-- Below `10 ^ 49` of the smallest units everything that goes into the rows comes about, once the
rate has been found. -/
theorem exists_shares (hadmits : Admits terms dueDates perYear)
    (hmode : engine.rounding = some mode) (hfinite : rate.isFinite)
    (hrate : engine.rateForTerm terms.annualRate perYear terms.term = .ok rate)
    (hprincipal : terms.principal.minor < 10 ^ 49)
    (htotal : terms.principal.product rate.toRat mode < 10 ^ 49)
    (hn : terms.repayments < 10 ^ 49) :
    ∃ s, engine.shares terms perYear = .ok s ∧
      s.totalInterest.minor = terms.principal.product rate.toRat mode := by
  have hlent_held := hadmits.principal_held
  have hlent_nonneg := hadmits.principal_minor_nonneg
  have hpos : 0 < terms.repayments := hadmits.repayments_pos
  have hnonneg : 0 ≤ terms.principal.amount.toRat * rate.toRat :=
    mul_nonneg ((Money.toRat_nonneg hlent_held).2 hlent_nonneg)
      ((Decimal.isNonneg_iff_toRat hfinite).1 (hadmits.isNonneg_rate hrate))
  have htotal_nonneg : 0 ≤ terms.principal.product rate.toRat mode :=
    mode.toInt_nonneg (mul_nonneg (moneyContext.rounded_nonneg hnonneg) (by positivity))
  obtain ⟨interest, hinterest, hcounts⟩ := Money.exists_times hlent_held hfinite hnonneg htotal
  obtain ⟨a, ha, -⟩ := Money.exists_dividedBy hlent_held (by rwa [abs_of_nonneg hlent_nonneg])
    hpos hn mode
  obtain ⟨b, hb, -⟩ := Money.exists_dividedBy hcounts.held
    (by rwa [hcounts.minor, abs_of_nonneg htotal_nonneg]) hpos hn mode
  rw [← hmode] at hinterest ha hb
  exact ⟨⟨rate, interest, a, b⟩, bind_eq_ok_iff.2 ⟨_, hrate, bind_eq_ok_iff.2
    ⟨_, mapError_eq_ok_iff.2 hinterest, bind_eq_ok_iff.2 ⟨_, mapError_eq_ok_iff.2 hb,
      bind_eq_ok_iff.2 ⟨_, mapError_eq_ok_iff.2 ha, rfl⟩⟩⟩⟩, hcounts.minor⟩

end Engine
end AddOnLoan
