import AddOnLoan.Money.Basic
import AddOnLoan.Proofs.Decimal.Results

namespace AddOnLoan

def MoneyError.IsArithmetic : MoneyError → Prop
  | .cannotBeHeld .. | .unknownRounding | .signal _ => True
  | _ => False

/-- A finite decimal with exactly so many places. -/
def Decimal.HasPlaces (places : Nat) (x : Decimal) : Prop := x.isFinite ∧ x.EndsAt places

theorem Decimal.HasPlaces.eq_finite {places : Nat} {x : Decimal} (h : x.HasPlaces places) :
    ∃ s n, x = .finite s n (-(places : Int)) := by
  obtain ⟨s, n, e, rfl⟩ := Decimal.eq_finite h.1
  exact ⟨s, n, congrArg (Decimal.finite s n) h.2⟩

namespace Money

def IsFinite (m : Money) : Prop := m.amount.isFinite

theorem endsAt_places (c : Currency) (negative : Bool) (n : Nat) :
    (Decimal.finite negative n (-(c.places : Int))).EndsAt c.places := rfl

/-- The amount of so many of the smallest units of a currency. -/
def ofMinor (c : Currency) (negative : Bool) (n : Nat) : Money :=
  ⟨c, .finite negative n (-(c.places : Int)), endsAt_places c negative n⟩

/-- How many of the smallest units of its currency an amount is. -/
def minor (m : Money) : Int :=
  match m.amount with
  | .finite s n _ => Decimal.signed s n
  | _ => 0

@[simp]
theorem minor_ofMinor (c : Currency) (s : Bool) (n : Nat) :
    (ofMinor c s n).minor = Decimal.signed s n := rfl

@[simp]
theorem minor_zero (c : Currency) : (zero c).minor = 0 := rfl

theorem eq_ofMinor_of_amount {m : Money} {s : Bool} {n : Nat} {e : Int}
    (h : m.amount = .finite s n e) : m = ofMinor m.currency s n := by
  obtain ⟨c, x, hx⟩ := m
  subst h
  change e = _ at hx
  subst hx
  rfl

theorem eq_ofMinor {m : Money} (hm : m.IsFinite) : ∃ s n, m = ofMinor m.currency s n := by
  obtain ⟨s, n, e, h⟩ := Decimal.eq_finite hm
  exact ⟨s, n, eq_ofMinor_of_amount h⟩

theorem toRat_amount {m : Money} (hm : m.IsFinite) :
    m.amount.toRat = m.minor / 10 ^ m.currency.places := by
  obtain ⟨s, n, hm⟩ := eq_ofMinor hm
  rw [hm, minor_ofMinor, ofMinor, Decimal.toRat_finite, zpow_neg, zpow_natCast, div_eq_mul_inv]

theorem quantize_of_error {c : Currency} {x : Decimal} {mode : Rounding} {signal : Signal}
    (h : (⟨50, mode⟩ : Context).quantize x (-(c.places : Int)) = .error signal) :
    quantize c x mode = .error (.cannotBeHeld x c.places) := by
  unfold quantize
  split
  · next h' => cases h'.symm.trans h
  · rfl

theorem holding_finite_same (c : Currency) (s : Bool) (n : Nat) :
    holding c (.finite s n (-(c.places : Int))) = .ok (ofMinor c s n) := by
  rw [holding, dif_pos ⟨rfl, rfl⟩]
  rfl

theorem holding_of_long {c : Currency} {s : Bool} {n : Nat} {e : Int} (hn : digitCount n = 50)
    (he : -(c.places : Int) < e) :
    holding c (.finite s n e) = .error (.cannotBeHeld (.finite s n e) c.places) := by
  have h0 : n ≠ 0 := by
    rintro rfl
    rw [digitCount_zero] at hn
    omega
  rw [holding, dif_neg (by rintro ⟨-, h⟩; exact absurd h (ne_of_gt he))]
  have herror : moneyContext.quantize (.finite s n e) (-(c.places : Int)) =
      .error .invalidOperation := by
    rw [Context.quantize_finite _ _ _ _ h0, if_pos]
    change ((50 : Nat) : Int) < digitCount n + e - -(c.places : Int)
    omega
  exact quantize_of_error herror

theorem plus_ofMinor (c : Currency) (s : Bool) (a : Nat) (s' : Bool) (b : Nat) :
    ∃ t, Decimal.signed t (Decimal.signed s a + Decimal.signed s' b).natAbs =
        Decimal.signed s a + Decimal.signed s' b ∧
      (ofMinor c s a).plus (ofMinor c s' b) =
        (moneyContext.round t (Decimal.signed s a + Decimal.signed s' b).natAbs
          (-(c.places : Int))).mapError .signal >>= holding c := by
  obtain ⟨t, ht, hadd⟩ := moneyContext.add_same s a s' b (-(c.places : Int))
  refine ⟨t, ht, ?_⟩
  rw [plus, combine, if_neg (by simp [ofMinor])]
  exact congrArg (fun x => x.mapError MoneyError.signal >>= holding c) hadd

variable {m n r : Money}

theorem plus_of_fits (hm : m.IsFinite) (hn : n.IsFinite) (hc : n.currency = m.currency)
    (h : (m.minor + n.minor).natAbs < 10 ^ 50) :
    ∃ r, m.plus n = .ok r ∧ r.IsFinite ∧ r.currency = m.currency ∧
      r.minor = m.minor + n.minor := by
  obtain ⟨s, a, hm⟩ := eq_ofMinor hm
  obtain ⟨s', b, hn⟩ := eq_ofMinor hn
  rw [hc] at hn
  obtain ⟨t, ht, hplus⟩ := plus_ofMinor m.currency s a s' b
  rw [← hm, ← hn] at hplus
  rw [hm, hn] at h
  have hplaces := m.currency.places_le
  have hd : digitCount (Decimal.signed s a + Decimal.signed s' b).natAbs ≤ 50 :=
    (digitCount_le_iff (by omega)).2 h
  have hmin : moneyContext.etiny = -1000048 := rfl
  have hmax : Context.emax = 999999 := rfl
  rw [Context.round_of_fits t hd (by omega) (by omega)] at hplus
  refine ⟨_, hplus.trans (holding_finite_same m.currency t _), rfl, rfl, ?_⟩
  rw [minor_ofMinor, ht, hm, hn, minor_ofMinor, minor_ofMinor]

/-- A sum of more than fifty digits is refused; it is out of range only with very many more. -/
theorem plus_of_long (hm : m.IsFinite) (hn : n.IsFinite) (hc : n.currency = m.currency)
    (h : 10 ^ 50 ≤ (m.minor + n.minor).natAbs) :
    ∃ e, m.plus n = .error e ∧ ((∃ x, e = .cannotBeHeld x m.currency.places) ∨
      e = .signal .overflow ∧ 999999 < digitCount (m.minor + n.minor).natAbs) := by
  obtain ⟨s, a, hm⟩ := eq_ofMinor hm
  obtain ⟨s', b, hn⟩ := eq_ofMinor hn
  rw [hc] at hn
  obtain ⟨t, ht, hplus⟩ := plus_ofMinor m.currency s a s' b
  rw [← hm, ← hn] at hplus
  -- what is rounded ends above the places of the currency, and no amount may
  rw [hm, hn, minor_ofMinor, minor_ofMinor] at h ⊢
  have hplaces := m.currency.places_le
  have hd : 50 < digitCount (Decimal.signed s a + Decimal.signed s' b).natAbs :=
    (lt_digitCount_iff (by omega)).2 h
  have hmin : moneyContext.etiny = -1000048 := rfl
  have hmax : Context.emax = 999999 := rfl
  cases hround : moneyContext.round t (Decimal.signed s a + Decimal.signed s' b).natAbs
      (-(m.currency.places : Int)) with
  | error signal =>
    rw [hround] at hplus
    obtain ⟨rfl, hlong⟩ := Context.round_eq_error (by decide) hround
    exact ⟨_, hm ▸ hn ▸ hplus, .inr ⟨rfl, by omega⟩⟩
  | ok x =>
    obtain ⟨c', e', rfl, hc', he'⟩ := Context.round_of_long (by decide) hd (by omega) hround
    rw [hround] at hplus
    exact ⟨_, hm ▸ hn ▸ hplus.trans (holding_of_long hc' he'), .inl ⟨_, rfl⟩⟩

/-- A finite amount of a given currency. -/
structure HeldIn (c : Currency) (m : Money) : Prop where
  finite : m.IsFinite
  currency : m.currency = c

variable {c : Currency}

theorem heldIn_zero (c : Currency) : (zero c).HeldIn c := ⟨rfl, rfl⟩

theorem HeldIn.hasPlaces (hm : m.HeldIn c) : m.amount.HasPlaces c.places :=
  ⟨hm.finite, hm.currency ▸ m.endsAt⟩

theorem HeldIn.toRat (hm : m.HeldIn c) : m.amount.toRat = m.minor / 10 ^ c.places := by
  rw [toRat_amount hm.finite, hm.currency]

@[simp]
theorem toRat_zero (c : Currency) : (zero c).amount.toRat = 0 := by
  rw [(heldIn_zero c).toRat, minor_zero, Int.cast_zero, zero_div]

theorem HeldIn.negated (hm : m.HeldIn c) : m.negated.HeldIn c ∧ m.negated.minor = -m.minor := by
  obtain ⟨s, n, h⟩ := eq_ofMinor hm.finite
  rw [h]
  exact ⟨⟨rfl, hm.currency⟩, Decimal.signed_not s n⟩

theorem minus_eq_plus_negated (hn : n.IsFinite) : m.minus n = m.plus n.negated := by
  obtain ⟨s, a, h⟩ := eq_ofMinor hn
  rw [h]
  rfl

theorem plus_yields (hm : m.HeldIn c) (hn : n.HeldIn c) :
    Yields (m.plus n)
      (fun r => r.HeldIn c ∧ r.minor = m.minor + n.minor ∧ r.minor.natAbs < 10 ^ 50)
      (fun e => (∃ x, e = .cannotBeHeld x c.places) ∨
        e = .signal .overflow ∧ 999999 < digitCount (m.minor + n.minor).natAbs) := by
  have hc : n.currency = m.currency := hn.currency.trans hm.currency.symm
  rcases lt_or_ge (m.minor + n.minor).natAbs (10 ^ 50) with hlt | hge
  · obtain ⟨r, hr, hfinite, hcurrency, hminor⟩ := plus_of_fits hm.finite hn.finite hc hlt
    rw [hr]
    exact .ok ⟨⟨hfinite, hcurrency.trans hm.currency⟩, hminor, by rwa [hminor]⟩
  · obtain ⟨e, he, hcause⟩ := plus_of_long hm.finite hn.finite hc hge
    rw [he]
    exact .error (hm.currency ▸ hcause)

theorem minus_yields (hm : m.HeldIn c) (hn : n.HeldIn c) :
    Yields (m.minus n)
      (fun r => r.HeldIn c ∧ r.minor = m.minor - n.minor ∧ r.minor.natAbs < 10 ^ 50)
      (fun e => (∃ x, e = .cannotBeHeld x c.places) ∨
        e = .signal .overflow ∧ 999999 < digitCount (m.minor - n.minor).natAbs) := by
  have h := plus_yields hm hn.negated.1
  rw [hn.negated.2, ← sub_eq_add_neg, ← minus_eq_plus_negated hn.finite] at h
  exact h

theorem plus_eq_ok (hm : m.HeldIn c) (hn : n.HeldIn c) (h : m.plus n = .ok r) :
    r.HeldIn c ∧ r.minor = m.minor + n.minor :=
  ⟨((plus_yields hm hn).result h).1, ((plus_yields hm hn).result h).2.1⟩

theorem minus_eq_ok (hm : m.HeldIn c) (hn : n.HeldIn c) (h : m.minus n = .ok r) :
    r.HeldIn c ∧ r.minor = m.minor - n.minor :=
  ⟨((minus_yields hm hn).result h).1, ((minus_yields hm hn).result h).2.1⟩

theorem toRat_plus (hm : m.HeldIn c) (hn : n.HeldIn c) (h : m.plus n = .ok r) :
    r.amount.toRat = m.amount.toRat + n.amount.toRat := by
  obtain ⟨hr, hminor⟩ := plus_eq_ok hm hn h
  rw [hr.toRat, hm.toRat, hn.toRat, hminor, Int.cast_add, add_div]

theorem toRat_minus (hm : m.HeldIn c) (hn : n.HeldIn c) (h : m.minus n = .ok r) :
    r.amount.toRat = m.amount.toRat - n.amount.toRat := by
  obtain ⟨hr, hminor⟩ := minus_eq_ok hm hn h
  rw [hr.toRat, hm.toRat, hn.toRat, hminor, Int.cast_sub, sub_div]

theorem toRat_nonneg (hm : m.HeldIn c) :
    0 ≤ m.amount.toRat ↔ 0 ≤ m.minor := by
  rw [hm.toRat, le_div_iff₀ (by positivity), zero_mul, Int.cast_nonneg_iff]

theorem isNegative_eq (hm : m.IsFinite) :
    m.isNegative = .ok (decide (m.minor < 0)) := by
  obtain ⟨s, n, h⟩ := eq_ofMinor hm
  rw [h, minor_ofMinor, isNegative]
  cases n with
  | zero => cases s <;> rfl
  | succ n =>
    cases s with
    | true =>
      rw [decide_eq_true (by simp [Decimal.signed]; omega)]
      rfl
    | false =>
      rw [decide_eq_false (by simp [Decimal.signed]; omega)]
      rfl

/-- Amounts of a currency that sums and differences stay among, up to refusals for a cause. -/
structure ClosedUnderSums (c : Currency) (P : Money → Prop) (E : MoneyError → Prop) : Prop where
  held : ∀ m, P m → m.HeldIn c
  zero : P (.zero c)
  plus : ∀ m n, P m → P n → Yields (m.plus n) P E
  minus : ∀ m n, P m → P n → Yields (m.minus n) P E

theorem closedUnderSums_heldIn (c : Currency) :
    ClosedUnderSums c (HeldIn c) MoneyError.IsArithmetic := by
  have hcause : ∀ e : MoneyError, ∀ n : Nat, ((∃ x, e = .cannotBeHeld x c.places) ∨
      e = .signal .overflow ∧ 999999 < n) → e.IsArithmetic := by
    rintro _ _ (⟨x, rfl⟩ | ⟨rfl, -⟩) <;> trivial
  exact
    { held := fun _ h => h
      zero := heldIn_zero c
      plus := fun m n hm hn => (plus_yields hm hn).mono (fun _ h => h.1) fun e => hcause e _
      minus := fun m n hm hn => (minus_yields hm hn).mono (fun _ h => h.1) fun e => hcause e _ }

/-- A finite amount of a given currency with at most fifty digits. -/
structure ShortIn (c : Currency) (m : Money) : Prop where
  held : m.HeldIn c
  short : m.minor.natAbs < 10 ^ 50

/-- Sums of amounts with fifty digits have far fewer than are out of range. -/
theorem closedUnderSums_shortIn (c : Currency) :
    ClosedUnderSums c (ShortIn c) fun e => ∃ x, e = .cannotBeHeld x c.places := by
  have hrange : ∀ k : Nat, k < 10 ^ 51 → ¬999999 < digitCount k := fun k hk => by
    have := (digitCount_le_iff (show 0 < 51 by omega)).2 hk
    omega
  refine
    { held := fun _ h => h.held
      zero := ⟨heldIn_zero c, Nat.pow_pos (by omega)⟩
      plus := fun m n hm hn => (plus_yields hm.held hn.held).mono (fun _ h => ⟨h.1, h.2.2⟩) ?_
      minus := fun m n hm hn =>
        (minus_yields hm.held hn.held).mono (fun _ h => ⟨h.1, h.2.2⟩) ?_ }
  all_goals
    have hm := hm.short
    have hn := hn.short
    rintro e (hheld | ⟨-, hlong⟩)
    · exact hheld
    · exact absurd hlong (hrange _ (by omega))

/-- The amount of the given value, if fifty digits hold it in its currency, and else its refusal. -/
structure HeldOrRefused (c : Currency) (value : ℚ) (result : Except MoneyError Money) : Prop where
  held : |value * 10 ^ c.places| < 10 ^ 50 →
    ∃ r, result = .ok r ∧ r.HeldIn c ∧ r.amount.toRat = value
  refused : 10 ^ 50 ≤ |value * 10 ^ c.places| → ∃ x, result = .error (.cannotBeHeld x c.places)

theorem abs_intCast_lt_pow_iff {i : ℤ} {k : Nat} : |(i : ℚ)| < 10 ^ k ↔ i.natAbs < 10 ^ k := by
  rw [← Int.cast_abs, Int.abs_eq_natAbs]
  exact_mod_cast Iff.rfl

theorem HeldIn.abs_lt_pow_iff (hm : m.HeldIn c) {k : Nat} :
    |m.amount.toRat * 10 ^ c.places| < 10 ^ k ↔ m.minor.natAbs < 10 ^ k := by
  rw [hm.toRat, div_mul_cancel₀ _ (by positivity), abs_intCast_lt_pow_iff]

theorem heldOrRefused_ok_iff (hr : r.ShortIn c) {value : ℚ} :
    HeldOrRefused c value (.ok r) ↔ r.amount.toRat = value := by
  constructor
  · intro h
    rcases lt_or_ge |value * 10 ^ c.places| (10 ^ 50) with hshort | hlong
    · obtain ⟨_, hr', -, hvalue⟩ := h.held hshort
      cases hr'
      exact hvalue
    · obtain ⟨_, hx⟩ := h.refused hlong
      cases hx
  · rintro rfl
    exact ⟨fun _ => ⟨r, rfl, hr.held, rfl⟩,
      fun hlong => absurd (hr.held.abs_lt_pow_iff.2 hr.short) hlong.not_gt⟩

theorem heldOrRefused_error_iff {value : ℚ} {e : MoneyError} :
    HeldOrRefused c value (.error e) ↔
      10 ^ 50 ≤ |value * 10 ^ c.places| ∧ ∃ x, e = .cannotBeHeld x c.places := by
  constructor
  · intro h
    have hlong : 10 ^ 50 ≤ |value * 10 ^ c.places| := not_lt.1 fun hshort => by
      obtain ⟨_, hr, -⟩ := h.held hshort
      cases hr
    obtain ⟨x, hx⟩ := h.refused hlong
    cases hx
    exact ⟨hlong, x, rfl⟩
  · rintro ⟨hlong, x, rfl⟩
    exact ⟨fun hshort => absurd hshort hlong.not_gt, fun _ => ⟨x, rfl⟩⟩

theorem HeldOrRefused.iff {value value' : ℚ} {result : Except MoneyError Money}
    (h : HeldOrRefused c value result) : HeldOrRefused c value' result ↔ value = value' ∨
      10 ^ 50 ≤ |value * 10 ^ c.places| ∧ 10 ^ 50 ≤ |value' * 10 ^ c.places| := by
  rcases lt_or_ge |value * 10 ^ c.places| (10 ^ 50) with hshort | hlong
  · obtain ⟨r, rfl, hr, rfl⟩ := h.held hshort
    rw [heldOrRefused_ok_iff ⟨hr, hr.abs_lt_pow_iff.1 hshort⟩]
    exact ⟨.inl, fun h => h.resolve_right fun hlong => hlong.1.not_gt hshort⟩
  · obtain ⟨x, rfl⟩ := h.refused hlong
    rw [heldOrRefused_error_iff]
    constructor
    · exact fun h => .inr ⟨hlong, h.1⟩
    · rintro (rfl | ⟨-, hlong'⟩)
      · exact ⟨hlong, x, rfl⟩
      · exact ⟨hlong', x, rfl⟩

structure Counts (c : Currency) (k : ℤ) (m : Money) : Prop where
  held : m.HeldIn c
  minor : m.minor = k

namespace Counts

variable {k l : ℤ}

theorem zero (c : Currency) : (Money.zero c).Counts c 0 := ⟨heldIn_zero c, rfl⟩

theorem plus (hm : m.Counts c k) (hn : n.Counts c l) (h : m.plus n = .ok r) :
    r.Counts c (k + l) ∧ (k + l).natAbs < 10 ^ 50 := by
  obtain ⟨hr, hminor, hshort⟩ := (plus_yields hm.held hn.held).result h
  rw [hm.minor, hn.minor] at hminor
  exact ⟨⟨hr, hminor⟩, hminor ▸ hshort⟩

theorem minus (hm : m.Counts c k) (hn : n.Counts c l) (h : m.minus n = .ok r) :
    r.Counts c (k - l) ∧ (k - l).natAbs < 10 ^ 50 := by
  obtain ⟨hr, hminor, hshort⟩ := (minus_yields hm.held hn.held).result h
  rw [hm.minor, hn.minor] at hminor
  exact ⟨⟨hr, hminor⟩, hminor ▸ hshort⟩

theorem exists_plus (hm : m.Counts c k) (hn : n.Counts c l) (h : (k + l).natAbs < 10 ^ 50) :
    ∃ r, m.plus n = .ok r ∧ r.Counts c (k + l) := by
  have hc : n.currency = m.currency := hn.held.currency.trans hm.held.currency.symm
  obtain ⟨r, hr, -⟩ := plus_of_fits hm.held.finite hn.held.finite hc
    (by rwa [hm.minor, hn.minor])
  exact ⟨r, hr, (hm.plus hn hr).1⟩

theorem negated (hm : m.Counts c k) : m.negated.Counts c (-k) :=
  ⟨hm.held.negated.1, by rw [hm.held.negated.2, hm.minor]⟩

theorem exists_minus (hm : m.Counts c k) (hn : n.Counts c l) (h : (k - l).natAbs < 10 ^ 50) :
    ∃ r, m.minus n = .ok r ∧ r.Counts c (k - l) := by
  rw [minus_eq_plus_negated hn.held.finite]
  rw [sub_eq_add_neg] at h ⊢
  exact hm.exists_plus hn.negated h

end Counts
end Money
end AddOnLoan
