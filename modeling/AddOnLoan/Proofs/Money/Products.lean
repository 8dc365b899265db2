import AddOnLoan.Proofs.Decimal.Order
import AddOnLoan.Proofs.Money.Quotients

namespace AddOnLoan

theorem Decimal.natAbs_signed (s : Bool) (n : Nat) : (signed s n).natAbs = n := by
  cases s <;> simp [signed]

namespace Money

variable {c : Currency} {m r : Money} {factor x : Decimal} {mode : Rounding}

theorem mul_brings (hm : m.IsFinite) (hfactor : factor.isFinite) :
    Context.Brings (moneyContext.mul m.amount factor)
      (moneyContext.rounded (m.amount.toRat * factor.toRat)) := by
  obtain ⟨s, a, e, hamount⟩ := Decimal.eq_finite hm
  obtain ⟨s', n, e', rfl⟩ := Decimal.eq_finite hfactor
  rw [hamount]
  exact Context.mul_brings (by decide) s s' a n e e'

theorem times_outOfRange (hm : m.IsFinite) (hfactor : factor.isFinite)
    (h : moneyContext.Overflows (m.amount.toRat * factor.toRat)) (rounding : Option Rounding) :
    m.times factor rounding = .error (.signal .overflow) := by
  obtain ⟨s, a, e, hamount⟩ := Decimal.eq_finite hm
  obtain ⟨s', n, e', rfl⟩ := Decimal.eq_finite hfactor
  have hmul : moneyContext.mul m.amount (.finite s' n e') = .error .overflow := by
    rw [hamount] at h ⊢
    exact (Context.mul_eq_error_iff (by decide)).2 ⟨rfl, h⟩
  rw [times, hmul]
  rfl

theorem HeldIn.toRat_eq_atPlaces_iff (hr : r.HeldIn c) {x : ℚ} :
    r.amount.toRat = mode.atPlaces c.places x ↔ r.minor = mode.toInt (x * 10 ^ c.places) := by
  rw [hr.toRat, Rounding.atPlaces, div_left_inj' (by positivity), Int.cast_inj]

theorem of_heldOrRefused (c : Currency) (s : Bool) (n : Nat) (e : Int) (mode : Rounding) :
    HeldOrRefused c (mode.atPlaces c.places (Decimal.finite s n e).toRat)
      (of c (.finite s n e) (some mode)) := by
  obtain ⟨n', hn', hof⟩ := of_finite c s n e mode
  have hheld : (ofMinor c s n').HeldIn c := ⟨rfl, rfl⟩
  have hvalue : (ofMinor c s n').amount.toRat =
      mode.atPlaces c.places (Decimal.finite s n e).toRat := hheld.toRat_eq_atPlaces_iff.2 hn'
  have hshort := hheld.abs_lt_pow_iff (k := 50)
  rw [minor_ofMinor, Decimal.natAbs_signed, hvalue] at hshort
  rw [hof]
  exact ⟨fun h => ⟨_, if_pos (hshort.1 h), hheld, hvalue⟩,
    fun h => ⟨_, if_neg (hshort.not.1 h.not_gt)⟩⟩

theorem times_heldOrRefused (hm : m.IsFinite) (hfactor : factor.isFinite)
    (h : ¬moneyContext.Overflows (m.amount.toRat * factor.toRat)) (mode : Rounding) :
    HeldOrRefused m.currency (mode.atPlaces m.currency.places
      (moneyContext.rounded (m.amount.toRat * factor.toRat))) (m.times factor (some mode)) := by
  obtain ⟨x, hx, hvalue⟩ := (mul_brings hm hfactor).exists_ok (not_le.1 h)
  obtain ⟨s, a, e, hamount⟩ := Decimal.eq_finite hm
  obtain ⟨s', n, e', rfl⟩ := Decimal.eq_finite hfactor
  have hmul := hx
  rw [hamount] at hmul
  obtain ⟨n', f, rfl, -⟩ := Context.mul_shape hmul
  rw [← hvalue, times, hx]
  exact of_heldOrRefused m.currency _ n' f mode

/-- The product of an amount and a factor in smallest units: exact, then with fifty digits, then
rounded to whole units. -/
def product (m : Money) (factor : ℚ) (mode : Rounding) : ℤ :=
  mode.toInt (moneyContext.rounded (m.amount.toRat * factor) * 10 ^ m.currency.places)

theorem minor_of_times (hm : m.HeldIn c) (hfactor : factor.isFinite)
    (h : m.times factor (some mode) = .ok r) : r.minor = m.product factor.toRat mode := by
  obtain ⟨s, n, e, hshape⟩ := Decimal.eq_finite hfactor
  have hr : r.ShortIn m.currency := (times_yields ⟨hm.finite, rfl⟩ mode).result (hshape ▸ h)
  have hin : ¬moneyContext.Overflows (m.amount.toRat * factor.toRat) := fun hout => by
    cases (times_outOfRange hm.finite hfactor hout _).symm.trans h
  have hmade := times_heldOrRefused hm.finite hfactor hin mode
  rw [h, heldOrRefused_ok_iff hr] at hmade
  exact hr.held.toRat_eq_atPlaces_iff.1 hmade

theorem exists_times (hm : m.HeldIn c) (hfactor : factor.isFinite)
    (hnonneg : 0 ≤ m.amount.toRat * factor.toRat)
    (hsmall : m.product factor.toRat mode < 10 ^ 49) :
    ∃ r, m.times factor (some mode) = .ok r ∧ r.Counts c (m.product factor.toRat mode) := by
  have hrounded := moneyContext.rounded_nonneg hnonneg
  have hproduct : 0 ≤ m.product factor.toRat mode :=
    mode.toInt_nonneg (mul_nonneg hrounded (by positivity))
  have hin : ¬moneyContext.Overflows (m.amount.toRat * factor.toRat) := by
    -- what is out of range has far more digits before the point
    intro hlarge
    rw [Context.Overflows, abs_of_nonneg hrounded] at hlarge
    have hmax : Context.emax = 999999 := rfl
    have hscale : (1 : ℚ) ≤ 10 ^ m.currency.places := one_le_pow₀ (by norm_num)
    have hle : (10 : ℚ) ^ 49 ≤
        moneyContext.rounded (m.amount.toRat * factor.toRat) * 10 ^ m.currency.places :=
      calc (10 : ℚ) ^ 49 = 10 ^ (49 : ℤ) := rfl
        _ ≤ 10 ^ (Context.emax + 1) := zpow_le_zpow_right₀ (by norm_num) (by omega)
        _ ≤ _ := hlarge.trans (le_mul_of_one_le_right hrounded hscale)
    exact absurd hsmall (mode.le_toInt (k := 10 ^ 49) (by exact_mod_cast hle)).not_gt
  have hmade := times_heldOrRefused hm.finite hfactor hin mode
  obtain ⟨r, hr, hheld, hvalue⟩ := hmade.held (by
    rw [Rounding.atPlaces, div_mul_cancel₀ _ (by positivity), ← product, abs_intCast_lt_pow_iff]
    omega)
  exact ⟨r, hr, hm.currency ▸ hheld, hheld.toRat_eq_atPlaces_iff.1 hvalue⟩

/-- A product is the exact one, rounded once to the places of its currency, or is refused because
that has more than fifty digits. -/
def TimesOnce (m : Money) (factor : Decimal) (mode : Rounding) : Prop :=
  HeldOrRefused m.currency (mode.atPlaces m.currency.places (m.amount.toRat * factor.toRat))
    (m.times factor (some mode))

/-- How the fifty digits lead a number astray that is then rounded to so many places: they are out
of range, or it becomes another number, and that number or the right one is held. -/
inductive Strays (mode : Rounding) (places : Nat) (x : ℚ) : Prop where
  | outOfRange (h : moneyContext.Overflows x)
  | moved (hne : mode.atPlaces places (moneyContext.rounded x) ≠ mode.atPlaces places x)
    (hshort : |mode.atPlaces places (moneyContext.rounded x) * 10 ^ places| < 10 ^ 50 ∨
      |mode.atPlaces places x * 10 ^ places| < 10 ^ 50)

/-- A product is rounded once exactly if the fifty digits do not lead it astray. -/
theorem timesOnce_iff (hm : m.IsFinite) (hfactor : factor.isFinite) (mode : Rounding) :
    m.TimesOnce factor mode ↔ ¬Strays mode m.currency.places (m.amount.toRat * factor.toRat) := by
  rw [TimesOnce]
  by_cases hout : moneyContext.Overflows (m.amount.toRat * factor.toRat)
  · rw [times_outOfRange hm hfactor hout, heldOrRefused_error_iff]
    refine iff_of_false ?_ (not_not.2 (.outOfRange hout))
    rintro ⟨-, x, hx⟩
    cases hx
  rw [(times_heldOrRefused hm hfactor hout mode).iff]
  constructor
  · rintro honce (h | ⟨hne, hshort⟩)
    · exact hout h
    · obtain ⟨hlong, hlong'⟩ := honce.resolve_left hne
      exact hshort.elim hlong.not_gt hlong'.not_gt
  · intro hnot
    by_contra hneither
    obtain ⟨hne, hshort⟩ := not_or.1 hneither
    exact hnot (.moved hne ((not_and_or.1 hshort).imp not_le.1 not_le.1))

theorem toRat_of_times_iff (hm : m.IsFinite) (hfactor : factor.isFinite)
    (h : m.times factor (some mode) = .ok r) :
    r.amount.toRat = mode.atPlaces m.currency.places (m.amount.toRat * factor.toRat) ↔
      ¬Strays mode m.currency.places (m.amount.toRat * factor.toRat) := by
  obtain ⟨s, n, e, rfl⟩ := Decimal.eq_finite hfactor
  have hr : r.ShortIn m.currency := (times_yields ⟨hm, rfl⟩ mode).result h
  rw [← timesOnce_iff hm hfactor, TimesOnce, h, heldOrRefused_ok_iff hr]

def oneYen : Money := ofMinor ⟨"JPY", 0, by decide⟩ false 1

def overHalf : Decimal := .finite false (5 * 10 ^ 50 + 1) (-51)

theorem not_timesOnce_overHalf : ¬oneYen.TimesOnce overHalf .halfEven := by
  intro honce
  obtain ⟨r, hr, -, hvalue⟩ := honce.held (by decide +kernel)
  have hnone : oneYen.times overHalf (some .halfEven) = .ok (zero oneYen.currency) := by
    decide +kernel
  cases hnone.symm.trans hr
  rw [toRat_zero] at hvalue
  exact absurd hvalue (by decide +kernel)

/-- Only a number that fifty digits lead onto a half of a unit of the last place, or onto a whole
one, goes astray in range. -/
theorem Strays.half {places : Nat} {x : ℚ} (h : Strays mode places x) :
    moneyContext.Overflows x ∨ ∃ k : ℤ, 2 * (moneyContext.rounded x * 10 ^ places) = k ∧
      2 * (x * 10 ^ places) ≠ k := by
  cases h with
  | outOfRange h => exact .inl h
  | moved hne hshort =>
    right
    by_contra hnone
    refine hne ?_
    rw [Rounding.atPlaces, Rounding.atPlaces]
    by_cases hhalf : ∃ k : ℤ, 2 * (moneyContext.rounded x * 10 ^ places) = k
    · obtain ⟨k, hk⟩ := hhalf
      have hkept : 2 * (x * 10 ^ places) = k := by_contra fun hk' => hnone ⟨k, hk, hk'⟩
      rw [mul_left_cancel₀ two_ne_zero (hk.trans hkept.symm)]
    · rw [(Context.alike_of_not_half (not_exists.1 hhalf)).toInt_eq mode]

theorem not_strays_of_hasDigits {places : Nat} {x : ℚ} (hdigits : HasDigits 50 x)
    (hrange : Context.InRange x) : ¬Strays mode places x := by
  have hkept : moneyContext.rounded x = x := hrange.rounded_of_hasDigits hdigits
  rintro (h | ⟨hne, -⟩)
  · rw [Context.Overflows, hkept] at h
    exact absurd hrange.lt (not_lt.2 h)
  · rw [hkept] at hne
    exact hne rfl

/-- What comes of a multiplication. -/
structure Multiplies (m : Money) (factor : Decimal) (mode : Rounding) : Prop where
  once_iff : m.TimesOnce factor mode ↔
    ¬Strays mode m.currency.places (m.amount.toRat * factor.toRat)
  once : HasDigits 50 (m.amount.toRat * factor.toRat) →
    Context.InRange (m.amount.toRat * factor.toRat) → m.TimesOnce factor mode
  half : Strays mode m.currency.places (m.amount.toRat * factor.toRat) →
    moneyContext.Overflows (m.amount.toRat * factor.toRat) ∨ ∃ k : ℤ,
      2 * (moneyContext.rounded (m.amount.toRat * factor.toRat) * 10 ^ m.currency.places) = k ∧
        2 * (m.amount.toRat * factor.toRat * 10 ^ m.currency.places) ≠ k

theorem multiplies (hm : m.IsFinite) (hfactor : factor.isFinite) (mode : Rounding) :
    m.Multiplies factor mode where
  once_iff := timesOnce_iff hm hfactor mode
  once hdigits hrange := (timesOnce_iff hm hfactor mode).2 (not_strays_of_hasDigits hdigits hrange)
  half := Strays.half

end Money
end AddOnLoan
