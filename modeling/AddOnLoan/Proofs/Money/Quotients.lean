import AddOnLoan.Proofs.Decimal.Rounded
import AddOnLoan.Proofs.Money.Shares

namespace AddOnLoan

def Rounding.atPlaces (mode : Rounding) (places : Nat) (x : ℚ) : ℚ :=
  mode.toInt (x * 10 ^ places) / 10 ^ places

namespace Money

variable {c : Currency} {m r : Money} {mode : Rounding}

theorem quantize_of_ok {x y : Decimal}
    (h : (⟨50, mode⟩ : Context).quantize x (-(c.places : Int)) = .ok y) :
    quantize c x mode = .ok ⟨c, y, Context.endsAt_of_quantize h⟩ := by
  unfold quantize
  split
  · next y' h' =>
    cases h.symm.trans h'
    rfl
  · next h' =>
    cases h.symm.trans h'

theorem of_finite (c : Currency) (s : Bool) (n : Nat) (e : Int) (mode : Rounding) :
    ∃ n', Decimal.signed s n' = mode.toInt ((Decimal.finite s n e).toRat * 10 ^ c.places) ∧
      of c (.finite s n e) (some mode) =
        if n' < 10 ^ 50 then .ok (ofMinor c s n')
        else .error (.cannotBeHeld (.finite s n e) c.places) := by
  have hp : 0 < (⟨50, mode⟩ : Context).precision := by simp
  obtain ⟨n', hn', hquantize⟩ := Context.quantize_eq hp s n e (-(c.places : Int))
  rw [zpow_neg, zpow_natCast, div_inv_eq_mul] at hn'
  refine ⟨n', hn', ?_⟩
  change _ = if n' < 10 ^ 50 then _ else _ at hquantize
  rw [of_some]
  split_ifs at hquantize ⊢
  · exact quantize_of_ok hquantize
  · exact quantize_of_error hquantize

/-- Fifty digits of a share: it is moved by half a unit of its last place at most, and that unit is
small beside it. -/
structure SharedAt (share exact : ℚ) (place : ℤ) : Prop where
  error : |share - exact| ≤ 10 ^ place / 2
  small : 10 ^ 49 * 10 ^ place ≤ |exact|
  kept : ∀ k : ℤ, exact = k * 10 ^ place → share = exact

variable {a n : ℤ} {p : Nat}

theorem exists_sharedAt (ha : a ≠ 0) (hn : 0 < n) (hn' : n < 10 ^ 49) (hp : p ≤ 10) :
    ∃ place, SharedAt (moneyContext.rounded (a / n / 10 ^ p) * 10 ^ p) (a / n) place := by
  have hnq : (0 : ℚ) < n := by exact_mod_cast hn
  have hpow : (0 : ℚ) < 10 ^ p := by positivity
  have habs : (1 : ℚ) ≤ |(a : ℚ)| := by exact_mod_cast Int.one_le_abs ha
  obtain ⟨x, hx⟩ : ∃ x : ℚ, (a : ℚ) / n / 10 ^ p = x := ⟨_, rfl⟩
  have hax : (a : ℚ) / n = x * 10 ^ p := by rw [← hx, div_mul_cancel₀ _ hpow.ne']
  have hx0 : x ≠ 0 := by
    rw [← hx]
    have : (a : ℚ) ≠ 0 := by exact_mod_cast ha
    positivity
  -- the share is far from the least numbers of the context
  have hrange : moneyContext.etiny ≤ Int.log 10 |x| + 1 - moneyContext.precision := by
    have hn'' : (n : ℚ) < 10 ^ 49 := by exact_mod_cast hn'
    have hp' : (10 : ℚ) ^ p ≤ 10 ^ 10 := pow_le_pow_right₀ (by norm_num) hp
    have hlow : ((10 : ℕ) : ℚ) ^ (-59 : ℤ) ≤ |x| := by
      rw [← hx, abs_div, abs_div, abs_of_pos hnq, abs_of_pos hpow, div_div,
        le_div_iff₀ (by positivity), Nat.cast_ofNat]
      calc (10 : ℚ) ^ (-59 : ℤ) * (n * 10 ^ p) ≤ 10 ^ (-59 : ℤ) * (10 ^ 49 * 10 ^ 10) := by gcongr
        _ = 1 := by norm_num
        _ ≤ |(a : ℚ)| := habs
    have hlog := (Int.zpow_le_iff_le_log (by omega) (abs_pos.2 hx0)).1 hlow
    have hmin : moneyContext.etiny = -1000048 := rfl
    have hprecision : moneyContext.precision = 50 := rfl
    omega
  have hplace : (10 : ℚ) ^ (moneyContext.grid x + p) = 10 ^ moneyContext.grid x * 10 ^ p := by
    rw [zpow_add₀ (by norm_num), zpow_natCast]
  refine ⟨moneyContext.grid x + p, ?_, ?_, ?_⟩
  · rw [hax, mul_div_cancel_right₀ _ hpow.ne', hplace, ← sub_mul, abs_mul, abs_of_pos hpow]
    linarith [mul_le_mul_of_nonneg_right (moneyContext.abs_rounded_sub_le rfl x) hpow.le]
  · rw [hax, abs_mul, abs_of_pos hpow, hplace, ← mul_assoc]
    exact mul_le_mul_of_nonneg_right (moneyContext.pow_grid_le (by decide) hx0 hrange) hpow.le
  · intro k hk
    rw [hax, hplace, ← mul_assoc] at hk
    rw [hx, hax, moneyContext.rounded_of_multiple le_rfl (mul_right_cancel₀ hpow.ne' hk)]

theorem exists_half_eq {k place : ℤ} (hn : 0 < n) (hk : 2 * a = k * n) (hplace : place < 0) :
    ∃ j : ℤ, (a : ℚ) / n = j * 10 ^ place := by
  have hnq : (0 : ℚ) < n := by exact_mod_cast hn
  have hkq : 2 * (a : ℚ) = k * n := by exact_mod_cast hk
  obtain ⟨d, rfl⟩ : ∃ d : Nat, place = -(d + 1 : Nat) := ⟨(-place - 1).toNat, by omega⟩
  refine ⟨k * 5 * 10 ^ d, ?_⟩
  rw [zpow_neg, zpow_natCast, pow_succ]
  push_cast
  field_simp
  linarith

/-- A quotient that is no half of a whole number differs from all of them by one over the divisor,
counted in halves. -/
theorem one_le_far_mul {k : ℤ} (hn : 0 < n) (hk : 2 * a ≠ k * n) :
    1 ≤ |2 * ((a : ℚ) / n) - k| * n := by
  have hnq : (0 : ℚ) < n := by exact_mod_cast hn
  have hne : 2 * a - k * n ≠ 0 := sub_ne_zero.2 hk
  have hint : (1 : ℚ) ≤ |2 * (a : ℚ) - k * n| := by exact_mod_cast Int.one_le_abs hne
  have hmul : 2 * (a : ℚ) - k * n = (2 * (a / n) - k) * n := by field_simp
  rwa [hmul, abs_mul, abs_of_pos hnq] at hint

/-- A share lies on a half of a whole number, or further from it than fifty digits are wrong. -/
theorem SharedAt.alike {share : ℚ} {place : ℤ} (h : SharedAt share (a / n) place)
    (ha : |a| < 10 ^ 49) (hn : 0 < n) : Rounding.Alike share (a / n) := by
  have hnq : (0 : ℚ) < n := by exact_mod_cast hn
  have hsmall : 10 ^ place * (n : ℚ) < 1 := by
    have haq : |(a : ℚ)| < 10 ^ 49 := by exact_mod_cast ha
    have hle := h.small
    rw [abs_div, abs_of_pos hnq, le_div_iff₀ hnq, mul_assoc] at hle
    linarith
  intro k
  by_cases hhalf : 2 * a = k * n
  · -- fifty digits go beyond the point, so a half is kept as it is
    have hplace : place < 0 := by
      by_contra hge
      have hone : (1 : ℚ) ≤ 10 ^ place := one_le_zpow₀ (by norm_num) (by omega)
      have hn1 : (1 : ℚ) ≤ n := by exact_mod_cast hn
      nlinarith
    obtain ⟨j, hj⟩ := exists_half_eq hn hhalf hplace
    rw [h.kept j hj]
    exact ⟨Iff.rfl, Iff.rfl⟩
  · have hgap : 10 ^ place < |2 * ((a : ℚ) / n) - k| := by
      by_contra hle
      have hfar := one_le_far_mul hn hhalf
      have := mul_le_mul_of_nonneg_right (not_lt.1 hle) hnq.le
      linarith
    have herror := abs_le.1 h.error
    rcases lt_abs.1 hgap with hgap | hgap
    · refine ⟨⟨fun _ => ?_, fun _ => ?_⟩, ⟨fun _ => ?_, fun _ => ?_⟩⟩ <;> linarith
    · refine ⟨⟨fun _ => ?_, fun _ => ?_⟩, ⟨fun _ => ?_, fun _ => ?_⟩⟩ <;> linarith

theorem toRat_ofInt (n : ℤ) : (Decimal.ofInt n).toRat = n := by
  rw [Decimal.ofInt, Decimal.toRat_finite, zpow_zero, mul_one,
    Decimal.signed_natAbs (fun _ => rfl)]

theorem dividedBy_of_div (hm : m.HeldIn c) (hn : 0 < n) {s : Bool} {q : Nat} {e : Int}
    (h : moneyContext.div m.amount (.ofInt n) = .ok (.finite s q e)) (mode : Rounding) :
    ∃ n', Decimal.signed s n' = mode.toInt
        (moneyContext.rounded (m.minor / n / 10 ^ c.places) * 10 ^ c.places) ∧
      m.dividedBy (.ofInt n) (some mode) =
        if n' < 10 ^ 50 then .ok (ofMinor c s n')
        else .error (.cannotBeHeld (.finite s q e) c.places) := by
  obtain ⟨n', hn', hof⟩ := of_finite c s q e mode
  refine ⟨n', ?_, by rw [dividedBy_ofInt m hn.ne', h, hm.currency]; exact hof⟩
  obtain ⟨s', b, hma⟩ := eq_ofMinor hm.finite
  have hamount : m.amount = .finite s' b (-(m.currency.places : Int)) := by rw [hma]; rfl
  have hrat := hm.toRat
  rw [hamount] at h hrat
  have hexact := Context.div_toRat (by decide) (Int.natAbs_ne_zero.2 hn.ne') h
  change _ = moneyContext.rounded (_ / (Decimal.ofInt n).toRat) at hexact
  rw [hn', hexact, hrat, toRat_ofInt, div_right_comm]

theorem minor_of_dividedBy (hm : m.HeldIn c) (hn : 0 < n)
    (h : m.dividedBy (.ofInt n) (some mode) = .ok r) :
    r.minor = mode.toInt
      (moneyContext.rounded (m.minor / n / 10 ^ c.places) * 10 ^ c.places) := by
  obtain ⟨y, hy, -⟩ := bind_eq_ok_iff.1 ((dividedBy_ofInt m hn.ne' _).symm.trans h)
  have hdiv := mapError_eq_ok_iff.1 hy
  obtain ⟨s, b, hma⟩ := eq_ofMinor hm.finite
  obtain ⟨q, e, rfl, -⟩ := Context.div_shape (s := s) (c := b) (e := -(m.currency.places : Int))
    (Int.natAbs_ne_zero.2 hn.ne') (by rw [hma] at hdiv; exact hdiv)
  obtain ⟨n', hn', hshare⟩ := dividedBy_of_div hm hn hdiv mode
  rw [hshare] at h
  split at h
  · cases h
    rw [minor_ofMinor, hn']
  · cases h

theorem alike_rounded (ha : |a| < 10 ^ 49) (hn : 0 < n) (hn' : n < 10 ^ 49) (hp : p ≤ 10) :
    Rounding.Alike (moneyContext.rounded (a / n / 10 ^ p) * 10 ^ p) (a / n) := by
  by_cases h0 : a = 0
  · subst h0
    intro k
    simp
  · obtain ⟨place, hplace⟩ := exists_sharedAt h0 hn hn' hp
    exact hplace.alike ha hn

theorem exists_dividedBy (hm : m.HeldIn c) (ha : |m.minor| < 10 ^ 49) (hn : 0 < n)
    (hn' : n < 10 ^ 49) (mode : Rounding) :
    ∃ r, m.dividedBy (.ofInt n) (some mode) = .ok r ∧ r.HeldIn c ∧
      r.minor = mode.toInt (m.minor / n) := by
  have habs := abs_lt.1 ha
  obtain ⟨s, q, e, hdiv⟩ := exists_div ⟨hm, by omega⟩ hn.ne'
  obtain ⟨k, hk, hshare⟩ := dividedBy_of_div hm hn hdiv mode
  rw [(alike_rounded ha hn hn' c.places_le).toInt_eq mode] at hk
  -- the share is no larger than the amount
  have hbound : k < 10 ^ 50 := by
    have hnq : (1 : ℚ) ≤ n := by exact_mod_cast hn
    have haq : |(m.minor : ℚ)| < 10 ^ 49 := by exact_mod_cast ha
    have hexact : |(m.minor : ℚ) / n| ≤ |(m.minor : ℚ)| := by
      rw [abs_div, abs_of_pos (show (0 : ℚ) < n by linarith)]
      exact div_le_self (abs_nonneg _) hnq
    have hround := mode.abs_toInt_sub_lt (m.minor / n)
    have hsub := abs_sub_abs_le_abs_sub (mode.toInt (m.minor / n) : ℚ) (m.minor / n)
    rw [← hk] at hround hsub
    rw [Decimal.abs_signed] at hsub
    have hlt : (k : ℚ) < 10 ^ 50 := by linarith
    exact_mod_cast hlt
  rw [if_pos hbound] at hshare
  exact ⟨_, hshare, ⟨rfl, rfl⟩, hk⟩

theorem toRat_div (hm : m.IsFinite) (n : ℤ) :
    m.amount.toRat / n = m.minor / n / 10 ^ m.currency.places := by
  rw [toRat_amount hm, div_right_comm]

theorem toRat_of_minor_eq {r : Money} (hr : r.HeldIn m.currency) (hm : m.IsFinite)
    (h : r.minor = mode.toInt (m.minor / n)) :
    r.amount.toRat = mode.atPlaces m.currency.places (m.amount.toRat / n) := by
  have hpow : (10 : ℚ) ^ m.currency.places ≠ 0 := by positivity
  rw [hr.toRat, h, Rounding.atPlaces, toRat_div hm, div_mul_cancel₀ _ hpow]

/-- Fifty digits half to even, then the places of the currency in any direction, are the places of
the currency in that direction. -/
theorem atPlaces_rounded (hm : m.IsFinite) (ha : |m.minor| < 10 ^ 49) (hn : 0 < n)
    (hn' : n < 10 ^ 49) (mode : Rounding) :
    mode.atPlaces m.currency.places (moneyContext.rounded (m.amount.toRat / n)) =
      mode.atPlaces m.currency.places (m.amount.toRat / n) := by
  have hpow : (10 : ℚ) ^ m.currency.places ≠ 0 := by positivity
  have halike := alike_rounded ha hn hn' m.currency.places_le
  rw [toRat_div hm, Rounding.atPlaces, halike.toInt_eq, Rounding.atPlaces, div_mul_cancel₀ _ hpow]

/-- An amount divided by a count is the exact quotient rounded once: that it is found with fifty
digits first makes no difference. -/
theorem dividedBy_roundsOnce (hm : m.IsFinite) (ha : |m.minor| < 10 ^ 49) (hn : 1 ≤ n)
    (hn' : n < 10 ^ 49) (mode : Rounding) :
    (∃ r, m.dividedBy (.ofInt n) (some mode) = .ok r ∧ r.HeldIn m.currency ∧
      r.amount.toRat = mode.atPlaces m.currency.places (m.amount.toRat / n)) ∧
    mode.atPlaces m.currency.places (moneyContext.rounded (m.amount.toRat / n)) =
      mode.atPlaces m.currency.places (m.amount.toRat / n) := by
  obtain ⟨r, hr, hheld, hminor⟩ := exists_dividedBy ⟨hm, rfl⟩ ha hn hn' mode
  exact ⟨⟨r, hr, hheld, toRat_of_minor_eq hheld hm hminor⟩, atPlaces_rounded hm ha hn hn' mode⟩

def justPastHalfCount : ℤ := 10 ^ 29 - 10 ^ 10 + 1

def justPastHalf : Money :=
  let halfCount := (10 ^ 29 - 10 ^ 10 + 2) / 2
  ofMinor ⟨"KWD", 3, by decide⟩ true ((2 * halfCount - 1) * 10 ^ 20 + halfCount)

theorem dividedBy_roundsOnce_justPastHalf : ∃ r,
    justPastHalf.dividedBy (.ofInt justPastHalfCount) (some .halfDown) = .ok r ∧
      r.amount.toRat = -(10 ^ 20 + 1) / 10 ^ 3 := by
  obtain ⟨⟨r, hr, -, hvalue⟩, -⟩ := dividedBy_roundsOnce (m := justPastHalf)
    (n := justPastHalfCount) rfl (by decide +kernel) (by decide) (by decide) .halfDown
  exact ⟨r, hr, hvalue.trans (by decide +kernel)⟩

end Money
end AddOnLoan
