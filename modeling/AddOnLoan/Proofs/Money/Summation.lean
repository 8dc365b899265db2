import AddOnLoan.Proofs.Decimal.Values
import AddOnLoan.Proofs.Money.Products

namespace AddOnLoan

theorem Context.add_finite_comm (ctx : Context) (s : Bool) (c : Nat) (e : Int) (s' : Bool)
    (c' : Nat) (e' : Int) :
    ctx.add (.finite s c e) (.finite s' c' e') = ctx.add (.finite s' c' e') (.finite s c e) := by
  change ctx.addFinite s c e s' c' e' = ctx.addFinite s' c' e' s c e
  simp only [addFinite, min_comm e' e, add_comm, Bool.and_comm, Bool.or_comm]

namespace Money

variable {c : Currency} {m n r r' : Money}

theorem same_iff (hm : m.IsFinite) (hn : n.IsFinite) :
    m.same n ↔ m.currency = n.currency ∧ m.minor = n.minor := by
  rw [same, Bool.and_eq_true, beq_iff_eq, Decimal.sameValue_iff hm hn]
  refine and_congr_right fun hc => ?_
  rw [toRat_amount hm, toRat_amount hn, hc, div_left_inj' (by positivity), Int.cast_inj]

theorem currency_of_combine {op : Context → Decimal → Decimal → Except Signal Decimal}
    (h : combine op m n = .ok r) : n.currency = m.currency := by
  by_contra hne
  rw [combine, if_pos hne] at h
  cases h

theorem currency_of_plus (h : m.plus n = .ok r) : n.currency = m.currency := currency_of_combine h

theorem currency_of_minus (h : m.minus n = .ok r) : n.currency = m.currency :=
  currency_of_combine h

theorem plus_comm (hm : m.IsFinite) (hn : n.IsFinite) (hc : n.currency = m.currency) :
    m.plus n = n.plus m := by
  obtain ⟨s, a, hm⟩ := eq_ofMinor hm
  obtain ⟨s', b, hn⟩ := eq_ofMinor hn
  rw [hm, hn, hc, plus, plus, combine, combine, if_neg (by simp [ofMinor]),
    if_neg (by simp [ofMinor])]
  exact congrArg (fun x => x.mapError MoneyError.signal >>= holding m.currency)
    (moneyContext.add_finite_comm s a _ s' b _)

theorem holding_ne_signal {x : Decimal} {signal : Signal} :
    holding c x ≠ .error (.signal signal) := by
  intro h
  unfold holding quantize at h
  split at h
  · cases h
  · split at h <;> cases h

theorem toRat_add_toRat (hm : m.HeldIn c) (hn : n.HeldIn c) :
    m.amount.toRat + n.amount.toRat = (m.minor + n.minor : ℤ) * 10 ^ (-(c.places : ℤ)) := by
  rw [hm.toRat, hn.toRat, zpow_neg, zpow_natCast, ← div_eq_mul_inv, ← add_div, Int.cast_add]

theorem plus_eq_overflow_iff (hm : m.HeldIn c) (hn : n.HeldIn c) :
    m.plus n = .error (.signal .overflow) ↔
      moneyContext.Overflows (m.amount.toRat + n.amount.toRat) := by
  rw [toRat_add_toRat hm hn]
  obtain ⟨s, a, hma⟩ := eq_ofMinor hm.finite
  obtain ⟨s', b, hnb⟩ := eq_ofMinor hn.finite
  rw [hm.currency] at hma
  rw [hn.currency] at hnb
  rw [hma, hnb, minor_ofMinor, minor_ofMinor]
  obtain ⟨t, ht, hplus⟩ := plus_ofMinor c s a s' b
  have hround : moneyContext.round t (Decimal.signed s a + Decimal.signed s' b).natAbs
      (-(c.places : ℤ)) = .error .overflow ↔ _ := Context.round_eq_error_iff (by decide)
  rw [ht] at hround
  rw [hplus, bind_eq_error_iff, mapError_eq_error_iff]
  constructor
  · rintro (⟨_, h, heq⟩ | ⟨_, -, h⟩)
    · cases heq
      exact (hround.1 h).2
    · exact absurd h holding_ne_signal
  · exact fun h => .inl ⟨_, hround.2 ⟨rfl, h⟩, rfl⟩

theorem toRat_negated (hn : n.IsFinite) : n.negated.amount.toRat = -n.amount.toRat := by
  have hnegated := HeldIn.negated (m := n) ⟨hn, rfl⟩
  rw [hnegated.1.toRat, toRat_amount hn, hnegated.2, Int.cast_neg, neg_div]

theorem minus_eq_overflow_iff (hm : m.HeldIn c) (hn : n.HeldIn c) :
    m.minus n = .error (.signal .overflow) ↔
      moneyContext.Overflows (m.amount.toRat - n.amount.toRat) := by
  rw [minus_eq_plus_negated hn.finite, plus_eq_overflow_iff hm hn.negated.1,
    toRat_negated hn.finite, sub_eq_add_neg]

/-- A sum or a difference is refused if the currencies differ, and else is the exact one, or refused
because that has more than fifty digits. -/
structure ExactOrRefused (m n : Money) (exact : ℚ) (result : Except MoneyError Money) : Prop where
  mismatch : (∃ code other, result = .error (.currencyMismatch code other)) ↔
    m.currency.code ≠ n.currency.code ∨ m.currency.places ≠ n.currency.places
  exact : n.currency = m.currency → HeldOrRefused m.currency exact result

theorem currency_ne_iff {c c' : Currency} : c' ≠ c ↔ c.code ≠ c'.code ∨ c.places ≠ c'.places := by
  have heq : c' = c ↔ c.code = c'.code ∧ c.places = c'.places := by
    cases c
    cases c'
    simp [eq_comm]
  rw [ne_eq, heq, not_and_or]

theorem abs_add_mul_pow_lt_iff (hm : m.HeldIn c) (hn : n.HeldIn c) {k : Nat} :
    |(m.amount.toRat + n.amount.toRat) * 10 ^ c.places| < 10 ^ k ↔
      (m.minor + n.minor).natAbs < 10 ^ k := by
  rw [toRat_add_toRat hm hn, zpow_neg, zpow_natCast, inv_mul_cancel_right₀ (by positivity),
    abs_intCast_lt_pow_iff]

theorem plus_heldOrRefused_iff (hm : m.HeldIn c) (hn : n.HeldIn c) :
    HeldOrRefused c (m.amount.toRat + n.amount.toRat) (m.plus n) ↔
      ¬moneyContext.Overflows (m.amount.toRat + n.amount.toRat) := by
  rw [← plus_eq_overflow_iff hm hn]
  have hyields := plus_yields hm hn
  cases hplus : m.plus n with
  | ok r =>
    obtain ⟨hr, -, hshort⟩ := hyields.result hplus
    exact iff_of_true ((heldOrRefused_ok_iff ⟨hr, hshort⟩).2 (toRat_plus hm hn hplus)) nofun
  | error e =>
    rw [heldOrRefused_error_iff]
    constructor
    · rintro ⟨-, x, rfl⟩ h
      cases h
    · intro hin
      have hlong : ¬(m.minor + n.minor).natAbs < 10 ^ 50 := fun hshort => by
        obtain ⟨r, hr, -⟩ :=
          plus_of_fits hm.finite hn.finite (hn.currency.trans hm.currency.symm) hshort
        cases hplus.symm.trans hr
      rcases hyields.cause hplus with ⟨x, rfl⟩ | ⟨rfl, -⟩
      · exact ⟨not_lt.1 ((abs_add_mul_pow_lt_iff hm hn).not.2 hlong), x, rfl⟩
      · exact absurd rfl hin

def OutOfRange (m n : Money) (exact : ℚ) : Prop :=
  n.currency = m.currency ∧ moneyContext.Overflows exact

theorem exactOrRefused_plus_iff (hm : m.IsFinite) (hn : n.IsFinite) :
    m.ExactOrRefused n (m.amount.toRat + n.amount.toRat) (m.plus n) ↔
      ¬m.OutOfRange n (m.amount.toRat + n.amount.toRat) := by
  by_cases hc : n.currency = m.currency
  · have hsum := plus_heldOrRefused_iff (m := m) ⟨hm, rfl⟩ ⟨hn, hc⟩
    rw [OutOfRange, and_iff_right hc, ← hsum]
    refine ⟨fun h => h.exact hc, fun h => ⟨iff_of_false ?_ fun h => currency_ne_iff.2 h hc,
      fun _ => h⟩⟩
    rintro ⟨code, other, hmismatch⟩
    rw [hmismatch, heldOrRefused_error_iff] at h
    obtain ⟨-, x, hx⟩ := h
    cases hx
  · have hmismatch : m.plus n = .error (.currencyMismatch m.currency.code n.currency.code) :=
      if_pos hc
    exact iff_of_true ⟨iff_of_true ⟨_, _, hmismatch⟩ (currency_ne_iff.1 hc), fun h => absurd h hc⟩
      fun h => hc h.1

theorem exactOrRefused_minus_iff (hm : m.IsFinite) (hn : n.IsFinite) :
    m.ExactOrRefused n (m.amount.toRat - n.amount.toRat) (m.minus n) ↔
      ¬m.OutOfRange n (m.amount.toRat - n.amount.toRat) := by
  have hsum := exactOrRefused_plus_iff hm (HeldIn.negated ⟨hn, rfl⟩).1.finite
  rw [toRat_negated hn, ← sub_eq_add_neg, ← minus_eq_plus_negated hn] at hsum
  -- the amount that is taken away is of the same currency whatever its sign is
  exact Iff.trans ⟨fun h => ⟨h.1, h.2⟩, fun h => ⟨h.1, h.2⟩⟩ hsum

def hugeYen : Money := ofMinor oneYen.currency false (10 ^ (Context.emax + 1).toNat)

theorem toRat_hugeYen : hugeYen.amount.toRat = 10 ^ (Context.emax + 1) := by
  have hplaces : oneYen.currency.places = 0 := rfl
  have hnonneg : 0 ≤ Context.emax + 1 := by decide
  rw [hugeYen, ofMinor, Decimal.toRat_finite, Decimal.signed, if_neg Bool.false_ne_true, hplaces,
    Nat.cast_zero, neg_zero, zpow_zero, mul_one, ← Int.toNat_of_nonneg hnonneg]
  push_cast
  rfl

theorem not_exactOrRefused_hugeYen :
    ¬(zero hugeYen.currency).ExactOrRefused hugeYen
      ((zero hugeYen.currency).amount.toRat + hugeYen.amount.toRat)
      ((zero hugeYen.currency).plus hugeYen) := by
  have hfinite : hugeYen.IsFinite := rfl
  rw [exactOrRefused_plus_iff (heldIn_zero _).finite hfinite, not_not, toRat_zero, zero_add,
    toRat_hugeYen]
  exact ⟨(heldIn_zero _).currency.symm, Context.overflows_pow (by decide) (by omega)⟩

theorem same_of_minus_of_plus (hm : m.IsFinite) (hn : n.IsFinite) (h : m.plus n = .ok r)
    (h' : r.minus n = .ok r') : r'.same m := by
  have hc := currency_of_plus h
  obtain ⟨hr, hminor⟩ := plus_eq_ok ⟨hm, rfl⟩ ⟨hn, hc⟩ h
  obtain ⟨hr', hminor'⟩ := minus_eq_ok hr ⟨hn, hc⟩ h'
  exact (same_iff hr'.finite hm).2 ⟨hr'.currency, by omega⟩

end Money

/-- A way to add amounts up, two at a time. -/
inductive Summation where
  | amount (m : Money)
  | sum (left right : Summation)

namespace Summation

variable {s t : Summation} {r r' : Money}

def amounts : Summation → List Money
  | amount m => [m]
  | sum left right => left.amounts ++ right.amounts

def total : Summation → Except MoneyError Money
  | amount m => .ok m
  | sum left right => do (← left.total).plus (← right.total)

/-- What an order of summation comes to: the sum of all amounts, which are of one currency. -/
structure Totals (s : Summation) (r : Money) : Prop where
  held : r.IsFinite
  currency : ∀ m ∈ s.amounts, m.currency = r.currency
  minor : r.minor = (s.amounts.map (·.minor)).sum

theorem totals (hs : ∀ m ∈ s.amounts, m.IsFinite) (h : s.total = .ok r) : s.Totals r := by
  induction s generalizing r with
  | amount m =>
    cases h
    exact ⟨hs m (.head _), by simp [amounts], by simp [amounts]⟩
  | sum left right ihl ihr =>
    obtain ⟨l, hl, h⟩ := bind_eq_ok_iff.1 h
    obtain ⟨k, hk, h⟩ := bind_eq_ok_iff.1 h
    rw [amounts, List.forall_mem_append] at hs
    have hleft := ihl hs.1 hl
    have hright := ihr hs.2 hk
    have hc := Money.currency_of_plus h
    obtain ⟨hr, hminor⟩ := Money.plus_eq_ok ⟨hleft.held, rfl⟩ ⟨hright.held, hc⟩ h
    refine ⟨hr.finite, ?_, ?_⟩
    · rw [amounts, List.forall_mem_append]
      exact ⟨fun m hm => (hleft.currency m hm).trans hr.currency.symm,
        fun m hm => ((hright.currency m hm).trans hc).trans hr.currency.symm⟩
    · rw [amounts, List.map_append, List.sum_append, hminor, hleft.minor, hright.minor]

theorem exists_mem_amounts (s : Summation) : ∃ m, m ∈ s.amounts := by
  induction s with
  | amount m => exact ⟨m, .head _⟩
  | sum left right ihl =>
    obtain ⟨m, hm⟩ := ihl
    exact ⟨m, List.mem_append_left _ hm⟩

theorem total_same (hperm : s.amounts.Perm t.amounts) (hs : ∀ m ∈ s.amounts, m.IsFinite)
    (h : s.total = .ok r) (h' : t.total = .ok r') : r.same r' := by
  have htotals := totals hs h
  have htotals' := totals (fun m hm => hs m (hperm.mem_iff.2 hm)) h'
  obtain ⟨m, hm⟩ := exists_mem_amounts s
  refine (Money.same_iff htotals.held htotals'.held).2 ⟨?_, ?_⟩
  · rw [← htotals.currency m hm, htotals'.currency m (hperm.mem_iff.1 hm)]
  · rw [htotals.minor, htotals'.minor]
    exact (hperm.map _).sum_eq

end Summation

namespace Money

variable {m n : Money}

/-- Sums and differences are exact or refused, unless they are out of range; so no order matters,
and a sum less one of its parts is the other. -/
theorem sums_exactOrRefused (hm : m.IsFinite) (hn : n.IsFinite) :
    (m.ExactOrRefused n (m.amount.toRat + n.amount.toRat) (m.plus n) ↔
      ¬m.OutOfRange n (m.amount.toRat + n.amount.toRat)) ∧
    (m.ExactOrRefused n (m.amount.toRat - n.amount.toRat) (m.minus n) ↔
      ¬m.OutOfRange n (m.amount.toRat - n.amount.toRat)) ∧
    (n.currency = m.currency → m.plus n = n.plus m) ∧
    (∀ r r', m.plus n = .ok r → r.minus n = .ok r' → r'.same m) ∧
    ∀ s t : Summation, s.amounts.Perm t.amounts → (∀ a ∈ s.amounts, a.IsFinite) →
      ∀ r r', s.total = .ok r → t.total = .ok r' → r.same r' :=
  ⟨exactOrRefused_plus_iff hm hn, exactOrRefused_minus_iff hm hn, plus_comm hm hn,
    fun _ _ => same_of_minus_of_plus hm hn,
    fun _ _ hperm hs _ _ => Summation.total_same hperm hs⟩

def overlong : Money := ofMinor oneYen.currency false (10 ^ 50)

def nearlyAll : Money := ofMinor overlong.currency true (10 ^ 50 - 1)

theorem sums_exactOrRefused_overlong :
    (∃ r, overlong.plus nearlyAll = .ok r ∧ r.amount.toRat = 1) ∧
      ∃ x, overlong.minus nearlyAll = .error (.cannotBeHeld x 0) := by
  have hm : overlong.HeldIn overlong.currency := ⟨rfl, rfl⟩
  have hn : nearlyAll.HeldIn overlong.currency := ⟨rfl, rfl⟩
  obtain ⟨hplus, hminus, -⟩ := sums_exactOrRefused hm.finite hn.finite
  have hsum : overlong.amount.toRat + nearlyAll.amount.toRat = 1 := by decide +kernel
  have hdifference : overlong.amount.toRat - nearlyAll.amount.toRat = 2 * 10 ^ 50 - 1 := by
    decide +kernel
  have hin : overlong.plus nearlyAll ≠ .error (.signal .overflow) ∧
      overlong.minus nearlyAll ≠ .error (.signal .overflow) := by decide +kernel
  obtain ⟨r, hr, -, hvalue⟩ :=
    (hplus.2 fun h => hin.1 ((plus_eq_overflow_iff hm hn).2 h.2)).exact rfl |>.held
      (by rw [hsum]; decide +kernel)
  refine ⟨⟨r, hr, hvalue.trans hsum⟩, ?_⟩
  exact (hminus.2 fun h => hin.2 ((minus_eq_overflow_iff hm hn).2 h.2)).exact rfl |>.refused
    (by rw [hdifference]; decide +kernel)

end Money
end AddOnLoan
