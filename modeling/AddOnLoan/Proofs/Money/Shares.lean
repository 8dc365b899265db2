import AddOnLoan.Proofs.Money.Sums

namespace AddOnLoan
namespace Money

variable {c : Currency} {m r : Money} {x : Decimal} {rounding : Option Rounding}

theorem of_some (c : Currency) (x : Decimal) (mode : Rounding) :
    of c x (some mode) = quantize c x mode := rfl

theorem quantize_eq_ok {mode : Rounding} (h : quantize c x mode = .ok r) :
    r.currency = c ∧ (⟨50, mode⟩ : Context).quantize x (-(c.places : Int)) = .ok r.amount := by
  unfold quantize at h
  split at h
  · next h' =>
    cases h
    exact ⟨rfl, h'⟩
  · cases h

theorem of_finite_eq_ok {s : Bool} {n : Nat} {e : Int}
    (h : of c (.finite s n e) rounding = .ok r) :
    ∃ n', r = ofMinor c s n' ∧ (n = 0 → n' = 0) := by
  cases rounding with
  | none => cases h
  | some mode =>
    rw [of_some] at h
    obtain ⟨hcurrency, hamount⟩ := quantize_eq_ok h
    obtain ⟨n', hn', h0⟩ := Context.quantize_shape hamount
    exact ⟨n', hcurrency ▸ eq_ofMinor_of_amount hn', h0⟩

theorem heldIn_of (hx : x.IsNumber) (h : of c x rounding = .ok r) : r.HeldIn c := by
  cases x with
  | nan => exact hx.elim
  | infinity s =>
    cases rounding with
    | none => cases h
    | some mode =>
      rw [of_some] at h
      exact nomatch (quantize_eq_ok h).2
  | finite s n e =>
    obtain ⟨n', rfl, -⟩ := of_finite_eq_ok h
    exact ⟨rfl, rfl⟩

theorem isNumber_amount (hm : m.IsFinite) : m.amount.IsNumber := by
  obtain ⟨s, n, h⟩ := eq_ofMinor hm
  rw [h]
  trivial

theorem heldIn_times {factor : Decimal} (hm : m.HeldIn c) (hf : factor.IsNumber)
    (h : m.times factor rounding = .ok r) : r.HeldIn c := by
  obtain ⟨x, hx, hr⟩ := bind_eq_ok_iff.1 h
  have hnum := Context.isNumber_mul (isNumber_amount hm.finite) hf (mapError_eq_ok_iff.1 hx)
  exact hm.currency ▸ heldIn_of hnum hr

theorem dividedBy_ofInt (m : Money) {n : Int} (hn : n ≠ 0) (rounding : Option Rounding) :
    m.dividedBy (.ofInt n) rounding =
      (moneyContext.div m.amount (.ofInt n)).mapError .signal >>= (of m.currency · rounding) := by
  have h0 : (Decimal.ofInt n).equals0 = .ok false := by
    simp [Decimal.ofInt, Decimal.equals0, hn]
  rw [dividedBy, h0]
  rfl

theorem dividedBy_eq_ok {n : Int} (hm : m.HeldIn c) (hn : 0 < n)
    (h : m.dividedBy (.ofInt n) rounding = .ok r) :
    r.HeldIn c ∧ (0 ≤ m.minor → 0 ≤ r.minor) := by
  rw [dividedBy_ofInt m hn.ne'] at h
  obtain ⟨x, hx, hr⟩ := bind_eq_ok_iff.1 h
  obtain ⟨s, a, hma⟩ := eq_ofMinor hm.finite
  have hx' := mapError_eq_ok_iff.1 hx
  rw [hma, ofMinor, Decimal.ofInt] at hx'
  obtain ⟨q, e, rfl, hq⟩ := Context.div_shape (Int.natAbs_ne_zero.2 hn.ne') hx'
  obtain ⟨a', rfl, ha'⟩ := of_finite_eq_ok hr
  refine ⟨⟨rfl, hm.currency⟩, fun h0 => ?_⟩
  rw [hma, minor_ofMinor] at h0
  rw [minor_ofMinor, decide_eq_false (by omega), Bool.bne_false]
  -- a negative zero is shared like zero
  cases s with
  | false => simp [Decimal.signed]
  | true =>
    have ha : a = 0 := by simpa [Decimal.signed] using h0
    simp [Decimal.signed, ha' (hq ha)]

/-- An amount is refused only where its currency cannot hold it, or without a direction. -/
theorem of_eq_error {e : MoneyError} (h : of c x rounding = .error e) :
    rounding = none ∧ e = .unknownRounding ∨
      rounding.isSome ∧ e = .cannotBeHeld x c.places := by
  cases rounding with
  | none =>
    cases h
    exact .inl ⟨rfl, rfl⟩
  | some mode =>
    rw [of_some, quantize] at h
    split at h
    · cases h
    · cases h
      exact .inr ⟨rfl, rfl⟩

theorem isArithmetic_of {e : MoneyError} (h : of c x rounding = .error e) : e.IsArithmetic := by
  rcases of_eq_error h with ⟨-, rfl⟩ | ⟨-, rfl⟩ <;> trivial

theorem times_eq_error {factor : Decimal} {e : MoneyError}
    (h : m.times factor rounding = .error e) : e.IsArithmetic := by
  rcases bind_eq_error_iff.1 h with h | ⟨y, -, h⟩
  · obtain ⟨signal, -, rfl⟩ := mapError_eq_error_iff.1 h
    trivial
  · exact isArithmetic_of h

theorem dividedBy_eq_error {n : Int} {e : MoneyError} (hn : n ≠ 0)
    (h : m.dividedBy (.ofInt n) rounding = .error e) : e.IsArithmetic := by
  rw [dividedBy_ofInt m hn] at h
  rcases bind_eq_error_iff.1 h with h | ⟨y, -, h⟩
  · obtain ⟨signal, -, rfl⟩ := mapError_eq_error_iff.1 h
    trivial
  · exact isArithmetic_of h

theorem of_finite_yields (c : Currency) (s : Bool) (n : Nat) (e : Int) (mode : Rounding) :
    Yields (of c (.finite s n e) (some mode)) (ShortIn c)
      (fun e => ∃ x, e = .cannotBeHeld x c.places) := by
  refine ⟨fun h => ?_, fun h => ?_⟩
  · obtain ⟨n', rfl, -⟩ := of_finite_eq_ok h
    have hdigits := Context.quantize_digits (by simp) (quantize_eq_ok h).2
    have hlt := (digitCount_le_iff (by simp)).1 hdigits
    exact ⟨⟨rfl, rfl⟩, by cases s <;> simpa [Decimal.signed] using hlt⟩
  · rcases of_eq_error h with ⟨hnone, -⟩ | ⟨-, rfl⟩
    · cases hnone
    · exact ⟨_, rfl⟩

/-- Interest is refused if a currency cannot hold it, or if it is out of range before it is cut to
the places of one. -/
theorem times_yields (hm : m.HeldIn c) {s : Bool} {n : Nat} {e : Int} (mode : Rounding) :
    Yields (m.times (.finite s n e) (some mode)) (ShortIn c) (fun e' =>
      (∃ x, e' = .cannotBeHeld x c.places) ∨
        moneyContext.mul m.amount (.finite s n e) = .error .overflow ∧
          e' = .signal .overflow) := by
  obtain ⟨s', a, hma⟩ := eq_ofMinor hm.finite
  rw [times, hm.currency]
  cases hmul : moneyContext.mul m.amount (.finite s n e) with
  | error signal =>
    rw [hma, ofMinor, Context.mul_finite] at hmul
    obtain ⟨rfl, -⟩ := Context.round_eq_error (by decide) hmul
    exact .error (.inr ⟨rfl, rfl⟩)
  | ok y =>
    rw [hma, ofMinor] at hmul
    obtain ⟨n', e', rfl, -⟩ := Context.mul_shape hmul
    exact (of_finite_yields c _ n' e' mode).mono_cause fun _ => .inl

/-- A quotient of an amount with few digits is never out of range. -/
theorem exists_div (hm : m.ShortIn c) {n : Int} (hn : n ≠ 0) :
    ∃ s q e, moneyContext.div m.amount (.ofInt n) = .ok (.finite s q e) := by
  obtain ⟨s, a, hma⟩ := eq_ofMinor hm.held.finite
  have hn' := Int.natAbs_ne_zero.2 hn
  cases hdiv : moneyContext.div m.amount (.ofInt n) with
  | error signal =>
    rw [hma, ofMinor, Decimal.ofInt] at hdiv
    have hrange := (Context.div_eq_error (by decide) hn' hdiv).2
    have hshort := hm.short
    rw [hma, minor_ofMinor] at hshort
    have hdigits : digitCount a ≤ 50 :=
      (digitCount_le_iff (by omega)).2 (by cases s <;> simpa [Decimal.signed] using hshort)
    -- the divisor, however large, only makes the quotient smaller
    have hmax : Context.emax = 999999 := rfl
    omega
  | ok y =>
    rw [hma, ofMinor, Decimal.ofInt] at hdiv
    obtain ⟨q, e, rfl, -⟩ := Context.div_shape hn' hdiv
    exact ⟨_, q, e, rfl⟩

theorem dividedBy_yields (hm : m.ShortIn c) {n : Int} (hn : n ≠ 0) (mode : Rounding) :
    Yields (m.dividedBy (.ofInt n) (some mode)) (ShortIn c)
      (fun e => ∃ x, e = .cannotBeHeld x c.places) := by
  obtain ⟨s, q, e, hdiv⟩ := exists_div hm hn
  rw [dividedBy_ofInt m hn, hm.held.currency, hdiv]
  exact of_finite_yields c s q e mode

end Money
end AddOnLoan
