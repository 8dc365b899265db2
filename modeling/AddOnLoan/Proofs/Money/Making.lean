import AddOnLoan.Proofs.Money.Products

namespace AddOnLoan

/-- A finite number that has no more than fifty digits once it is rounded half to even to the places
of a currency. -/
def Decimal.FitsIn (c : Currency) (x : Decimal) : Prop :=
  x.isFinite ∧ |Rounding.halfEven.atPlaces c.places x.toRat * 10 ^ c.places| < 10 ^ 50

namespace Money

variable {c : Currency} {x : Decimal} {s : Bool} {n : Nat} {e : Int}

/-- Both ways accept a number if it fits, and hold the same amount, and both refuse it if it does
not. -/
structure MadeAlike (c : Currency) (x : Decimal) : Prop where
  held : x.FitsIn c → ∃ m, holding c x = .ok m ∧ of c x = .ok m ∧ m.HeldIn c ∧
    m.amount.toRat = Rounding.halfEven.atPlaces c.places x.toRat
  refused : ¬x.FitsIn c → holding c x = .error (.cannotBeHeld x c.places) ∧
    of c x = .error (.cannotBeHeld x c.places)

/-- What is held although it does not fit. -/
inductive Slips (c : Currency) : Decimal → Prop where
  | nan (s : Bool) (payload : Nat) : Slips c (.nan false s payload)
  | long (s : Bool) {n : Nat} (h : 10 ^ 50 ≤ n) : Slips c (.finite s n (-(c.places : Int)))

theorem holding_eq_of (h : ¬(x.isFinite ∧ x.EndsAt c.places)) : holding c x = of c x := dif_neg h

theorem of_finite_exact (c : Currency) (s : Bool) (n : Nat) (mode : Rounding) :
    of c (.finite s n (-(c.places : Int))) (some mode) =
      if n < 10 ^ 50 then .ok (ofMinor c s n)
      else .error (.cannotBeHeld (.finite s n (-(c.places : Int))) c.places) := by
  obtain ⟨n', hn', hof⟩ := of_finite c s n (-(c.places : Int)) mode
  rw [Decimal.toRat_finite, zpow_neg, zpow_natCast, inv_mul_cancel_right₀ (by positivity),
    Rounding.toInt_intCast] at hn'
  have heq := congrArg Int.natAbs hn'
  rw [Decimal.natAbs_signed, Decimal.natAbs_signed] at heq
  exact heq ▸ hof

theorem of_finite_same (c : Currency) (s : Bool) (n : Nat) :
    of c (.finite s n (-(c.places : Int))) =
      if n < 10 ^ 50 then .ok (ofMinor c s n)
      else .error (.cannotBeHeld (.finite s n (-(c.places : Int))) c.places) :=
  of_finite_exact c s n .halfEven

theorem madeAlike_of_eq (h : holding c (.finite s n e) = of c (.finite s n e)) :
    MadeAlike c (.finite s n e) := by
  have hmade := of_heldOrRefused c s n e .halfEven
  refine ⟨fun hfits => ?_, fun hnot => ?_⟩
  · obtain ⟨m, hm, hheld, hvalue⟩ := hmade.held hfits.2
    exact ⟨m, h.trans hm, hm, hheld, hvalue⟩
  · obtain ⟨x, hx⟩ := hmade.refused (not_lt.1 fun hshort => hnot ⟨rfl, hshort⟩)
    rcases of_eq_error hx with ⟨hnone, -⟩ | ⟨-, hcause⟩
    · cases hnone
    · rw [hcause] at hx
      exact ⟨h.trans hx, hx⟩

theorem madeAlike_of_error {signal : Signal} (hx : ¬x.isFinite)
    (h : moneyContext.quantize x (-(c.places : Int)) = .error signal) : MadeAlike c x := by
  have hof : of c x = .error (.cannotBeHeld x c.places) := quantize_of_error h
  exact ⟨fun hfits => absurd hfits.1 hx,
    fun _ => ⟨(holding_eq_of fun hends => hx hends.1).trans hof, hof⟩⟩

theorem exists_nan (c : Currency) (s : Bool) (payload : Nat) : ∃ m p,
    holding c (.nan false s payload) = .ok m ∧ of c (.nan false s payload) = .ok m ∧
      m.amount = .nan false s p := by
  have hof := (of_some c (.nan false s payload) .halfEven).trans (quantize_of_ok rfl)
  exact ⟨_, _, (holding_eq_of fun h => by cases h.1).trans hof, hof, rfl⟩

theorem not_madeAlike_of_slips (h : Slips c x) : ¬MadeAlike c x := by
  intro halike
  cases h with
  | nan s payload =>
    obtain ⟨m, -, hm, -⟩ := exists_nan c s payload
    cases hm.symm.trans (halike.refused fun hfits => by cases hfits.1).1
  | @long s n h =>
    have hmade := of_heldOrRefused c s n (-(c.places : Int)) .halfEven
    rw [of_finite_same, if_neg h.not_gt, heldOrRefused_error_iff] at hmade
    cases (holding_finite_same c s n).symm.trans
      (halike.refused fun hfits => hmade.1.not_gt hfits.2).1

theorem not_madeAlike_oneYen :
    ¬MadeAlike oneYen.currency (.finite false (10 ^ 50) 0) ∧
      ¬MadeAlike oneYen.currency (.nan false false 0) :=
  ⟨not_madeAlike_of_slips (.long false le_rfl), not_madeAlike_of_slips (.nan false 0)⟩

/-- The two ways of making an amount accept the same values, except for what slips through: a quiet
not-a-number is held by both, and a number that ends where it should and is too long by one. -/
theorem madeAlike_iff (c : Currency) (x : Decimal) :
    (MadeAlike c x ↔ ¬Slips c x) ∧
    (∀ s payload, ∃ m p, holding c (.nan false s payload) = .ok m ∧
      of c (.nan false s payload) = .ok m ∧ m.amount = .nan false s p) ∧
    ∀ (s : Bool) (n : Nat), 10 ^ 50 ≤ n →
      holding c (.finite s n (-(c.places : Int))) = .ok (ofMinor c s n) ∧
        of c (.finite s n (-(c.places : Int))) =
          .error (.cannotBeHeld (.finite s n (-(c.places : Int))) c.places) := by
  refine ⟨⟨fun halike hslips => not_madeAlike_of_slips hslips halike, fun hnot => ?_⟩,
    exists_nan c, fun s n h => ⟨holding_finite_same c s n,
      (of_finite_same c s n).trans (if_neg h.not_gt)⟩⟩
  cases x with
  | nan signalling s payload =>
    cases signalling with
    | true => exact madeAlike_of_error nofun rfl
    | false => exact absurd (.nan s payload) hnot
  | infinity s => exact madeAlike_of_error nofun rfl
  | finite s n e =>
    apply madeAlike_of_eq
    by_cases he : e = -(c.places : Int)
    · subst he
      have hshort : n < 10 ^ 50 := not_le.1 fun h => hnot (.long s h)
      rw [holding_finite_same, of_finite_same, if_pos hshort]
    · exact holding_eq_of fun hends => he hends.2

theorem madeAlike_iff_oneYen : ∃ m,
    holding oneYen.currency (.finite false 25 (-1)) = .ok m ∧
      of oneYen.currency (.finite false 25 (-1)) = .ok m ∧ m.amount.toRat = 2 := by
  have hfits : (Decimal.finite false 25 (-1)).FitsIn oneYen.currency := ⟨rfl, by decide +kernel⟩
  have hnot : ¬Slips oneYen.currency (.finite false 25 (-1)) := nofun
  obtain ⟨m, hholding, hof, -, hvalue⟩ := ((madeAlike_iff _ _).1.2 hnot).held hfits
  exact ⟨m, hholding, hof, hvalue.trans (by decide +kernel)⟩

end Money
end AddOnLoan
