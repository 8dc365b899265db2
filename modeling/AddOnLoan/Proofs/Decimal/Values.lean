import AddOnLoan.Proofs.Decimal.Rounded

namespace AddOnLoan

theorem forall₂_of_map_eq {f : α → β} {P : α → Prop} {R : α → α → Prop}
    (hR : ∀ x y, P x → P y → f x = f y → R x y) {l l' : List α} (hl : ∀ x ∈ l, P x)
    (hl' : ∀ x ∈ l', P x) (h : l.map f = l'.map f) : List.Forall₂ R l l' := by
  induction l generalizing l' with
  | nil =>
    obtain rfl := List.map_eq_nil_iff.1 h.symm
    exact .nil
  | cons x l ih =>
    obtain ⟨y, rest, rfl, hy, hrest⟩ := List.map_eq_cons_iff.1 h.symm
    rw [List.forall_mem_cons] at hl hl'
    exact .cons (hR x y hl.1 hl'.1 hy.symm) (ih hl.2 hl'.2 hrest.symm)

namespace Decimal

variable {s s' : Bool} {c c' : Nat} {e e' : Int} {x y : Decimal}

theorem isNumber_of_isFinite (h : x.isFinite) : x.IsNumber := by
  obtain ⟨s, c, e, rfl⟩ := eq_finite h
  trivial

theorem signed_mul (s : Bool) (c k : Nat) : signed s (c * k) = signed s c * k := by
  cases s <;> simp [signed]

theorem toRat_eq_iff_of_le (h : e ≤ e') : (finite s c e).toRat = (finite s' c' e').toRat ↔
    signed s c = signed s' (c' * 10 ^ (e' - e).toNat) := by
  obtain ⟨d, rfl⟩ := Int.le.dest h
  have hpow : (10 : ℚ) ^ e ≠ 0 := by positivity
  rw [toRat_finite, toRat_finite, zpow_add₀ (by norm_num), zpow_natCast, mul_comm ((10 : ℚ) ^ e),
    ← mul_assoc, mul_left_inj' hpow, add_sub_cancel_left, Int.toNat_natCast, signed_mul]
  norm_cast

theorem sameValue_finite_iff :
    (finite s c e).sameValue (finite s' c' e') ↔
      (finite s c e).toRat = (finite s' c' e').toRat := by
  rw [sameValue]
  split
  · next h => rw [beq_iff_eq, toRat_eq_iff_of_le h]
  · next h => rw [beq_iff_eq, eq_comm, ← toRat_eq_iff_of_le (by omega), eq_comm]

theorem sameValue_iff (hx : x.isFinite) (hy : y.isFinite) :
    x.sameValue y ↔ x.toRat = y.toRat := by
  obtain ⟨s, c, e, rfl⟩ := eq_finite hx
  obtain ⟨s', c', e', rfl⟩ := eq_finite hy
  exact sameValue_finite_iff

/-- Equal values stand for one number, also where they are infinite. -/
theorem toRat_eq_of_sameValue (h : x.sameValue y) : x.toRat = y.toRat := by
  cases x with
  | nan => cases h
  | infinity s =>
    cases y with
    | infinity s' => rfl
    | _ => cases h
  | finite s c e =>
    cases y with
    | finite s' c' e' => exact sameValue_finite_iff.1 h
    | _ => cases h

theorem forall₂_sameValue {l l' : List Decimal} (hl : ∀ x ∈ l, x.isFinite)
    (hl' : ∀ x ∈ l', x.isFinite) (h : l.map toRat = l'.map toRat) :
    List.Forall₂ (fun x y => x.sameValue y) l l' :=
  forall₂_of_map_eq (fun _ _ hx hy => (sameValue_iff hx hy).2) hl hl' h

end Decimal

namespace Context

variable {ctx : Context} {x y r : Decimal}

theorem isFinite_of_mul (hx : x.IsNumber) (hy : y.IsNumber) (h : ctx.mul x y = .ok r)
    (hr : r.isFinite) : x.isFinite ∧ y.isFinite := by
  cases x with
  | nan => exact hx.elim
  | infinity s =>
    cases y with
    | nan => exact hy.elim
    | infinity s' => cases h; cases hr
    | finite s' c' e' => cases c' <;> cases h; cases hr
  | finite s c e =>
    cases y with
    | nan => exact hy.elim
    | infinity s' => cases c <;> cases h; cases hr
    | finite s' c' e' => exact ⟨rfl, rfl⟩

theorem isFinite_of_div (hx : x.IsNumber) (hy : y.IsNumber) (h : ctx.div x y = .ok r)
    (hr : r.isFinite) : x.isFinite := by
  cases x with
  | nan => exact hx.elim
  | infinity s =>
    cases y with
    | nan => exact hy.elim
    | infinity s' => cases h
    | finite s' c' e' => cases h; cases hr
  | finite s c e => rfl

end Context
end AddOnLoan
