import AddOnLoan.Proofs.Decimal.Digits
import AddOnLoan.Proofs.Outcome

namespace AddOnLoan

namespace Decimal

/-- The number that a finite decimal stands for. An infinity or a not-a-number counts as zero. -/
def toRat : Decimal → ℚ
  | .finite s c e => signed s c * 10 ^ e
  | _ => 0

def IsNumber : Decimal → Prop
  | .nan .. => False
  | _ => True

@[simp]
theorem toRat_finite (s : Bool) (c : Nat) (e : Int) :
    (finite s c e).toRat = signed s c * 10 ^ e := rfl

theorem eq_finite {x : Decimal} (h : x.isFinite) : ∃ s c e, x = .finite s c e := by
  cases x with
  | finite s c e => exact ⟨s, c, e, rfl⟩
  | infinity s => cases h
  | nan k s p => cases h

theorem signed_not (s : Bool) (c : Nat) : signed (!s) c = -signed s c := by
  cases s <;> simp [signed]

theorem signed_natAbs {n : Int} {s : Bool} (h : n ≠ 0 → s = decide (n < 0)) :
    signed s n.natAbs = n := by
  rcases lt_trichotomy n 0 with hn | rfl | hn
  · rw [h (by omega), decide_eq_true hn, signed, if_pos rfl]
    omega
  · cases s <;> rfl
  · rw [h (by omega), decide_eq_false (by omega), signed, if_neg nofun]
    omega

end Decimal

namespace Context

variable {ctx : Context} {negative : Bool} {c : Nat} {e : Int} {r : Decimal}

theorem settle_eq_ok (h : ctx.settle negative c e = .ok r) :
    digitCount c ≤ ctx.precision ∧ r = .finite negative c e ∨
      ctx.precision < digitCount c ∧ r = .finite negative (c / 10) (e + 1) := by
  by_cases hc : digitCount c > ctx.precision
  · simp only [settle, if_pos hc] at h
    split at h
    · cases h
    · exact .inr ⟨hc, (Except.ok.inj h).symm⟩
  · simp only [settle, if_neg hc] at h
    split at h
    · cases h
    · exact .inl ⟨by omega, (Except.ok.inj h).symm⟩

/-- A coefficient is out of range exactly if its first digit is, carried or not. -/
theorem settle_eq_error_iff (hp : 0 < ctx.precision) {signal : Signal} :
    ctx.settle negative c e = .error signal ↔
      signal = .overflow ∧ emax < e + digitCount c - 1 := by
  by_cases hc : digitCount c > ctx.precision
  · have hten : 10 ≤ c := by
      have := (lt_digitCount_iff (k := 1) (n := c) (by omega)).1 (by omega)
      rwa [Nat.pow_one] at this
    have hd : digitCount c = digitCount (c / 10) + 1 := by
      rw [digitCount_eq, digitCount_eq, countDigits_of_le hten]
    simp only [settle, if_pos hc]
    split
    · simp only [Except.error.injEq]
      constructor <;> intro h <;> simp_all
      omega
    · simp only [reduceCtorEq, false_iff]
      omega
  · simp only [settle, if_neg hc]
    split
    · simp only [Except.error.injEq]
      constructor <;> intro h <;> simp_all
    · simp only [reduceCtorEq, false_iff]
      omega

theorem settle_of_full (hp : 0 < ctx.precision) (low : 10 ^ (ctx.precision - 1) ≤ c)
    (high : c ≤ 10 ^ ctx.precision) (h : ctx.settle negative c e = .ok r) :
    ∃ c' e', r = .finite negative c' e' ∧ digitCount c' = ctx.precision ∧ e ≤ e' := by
  have hpred : ctx.precision - 1 + 1 = ctx.precision := Nat.sub_add_cancel hp
  rcases settle_eq_ok h with ⟨hc, rfl⟩ | ⟨hc, rfl⟩
  · have := digitCount_eq_of_bounds low (by rw [hpred]; exact (digitCount_le_iff hp).1 hc)
    exact ⟨_, _, rfl, by omega, le_rfl⟩
  · -- only a carry through all digits leaves one too many
    have heq : c = 10 ^ ctx.precision := le_antisymm high ((lt_digitCount_iff hp).1 hc)
    have hten : c / 10 = 10 ^ (ctx.precision - 1) := by
      rw [heq, ← hpred, Nat.pow_succ, Nat.mul_div_cancel _ (by omega), hpred]
    exact ⟨_, _, rfl, by rw [hten, digitCount_pow, hpred], by omega⟩

/-- A number other than zero is cut at the grid that its digits and the range leave. -/
theorem round_of_ne_zero (negative : Bool) (grid : Int) (hc : c ≠ 0)
    (hgrid : max (max e (e + digitCount c - ctx.precision)) ctx.etiny = grid) :
    ctx.round negative c e =
      ctx.settle negative (ctx.rounding.units negative c 1 (grid - e)) grid := by
  subst hgrid
  rw [round, if_neg hc]

theorem round_of_fits (negative : Bool) (hc : digitCount c ≤ ctx.precision)
    (hmin : ctx.etiny ≤ e) (hmax : e + digitCount c - 1 ≤ emax) :
    ctx.round negative c e = .ok (.finite negative c e) := by
  have hpos := digitCount_pos c
  by_cases h0 : c = 0
  · subst h0
    rw [round, if_pos rfl, min_eq_left (by omega), max_eq_right hmin]
  · rw [round_of_ne_zero negative e h0 (by omega), sub_self, Rounding.units_zero, settle]
    simp only [if_neg (show ¬digitCount c > ctx.precision by omega),
      if_neg (show ¬e + digitCount c - 1 > emax by omega)]

theorem round_of_long (hp : 0 < ctx.precision) (hc : ctx.precision < digitCount c)
    (hmin : ctx.etiny ≤ e) (h : ctx.round negative c e = .ok r) :
    ∃ c' e', r = .finite negative c' e' ∧ digitCount c' = ctx.precision ∧ e < e' := by
  -- `k + 1` digits are cut off
  obtain ⟨k, hk⟩ := Nat.exists_eq_add_of_lt hc
  have hpos : 0 < c := by
    have := (lt_digitCount_iff hp).1 hc
    have := Nat.pow_pos (n := ctx.precision) (show 0 < 10 by omega)
    omega
  rw [round_of_ne_zero negative (e + (k + 1 : Nat)) hpos.ne' (by omega),
    add_sub_cancel_left] at h
  have low : 10 ^ (ctx.precision - 1) ≤ ctx.rounding.units negative c 1 (k + 1 : Nat) := by
    apply Rounding.le_units _ _ one_pos
    rw [Nat.cast_one, div_one, zpow_natCast, le_div_iff₀ (by positivity)]
    have := pow_pred_digitCount_le hpos
    rw [show digitCount c - 1 = ctx.precision - 1 + (k + 1) by omega, Nat.pow_add] at this
    exact_mod_cast this
  have high : ctx.rounding.units negative c 1 (k + 1 : Nat) ≤ 10 ^ ctx.precision := by
    apply Rounding.units_le _ _ hpos one_pos
    rw [Nat.cast_one, div_one, zpow_natCast, div_le_iff₀ (by positivity)]
    have := (lt_pow_digitCount c).le
    rw [show digitCount c = ctx.precision + (k + 1) by omega, Nat.pow_add] at this
    exact_mod_cast this
  obtain ⟨c', e', hr, hd, he⟩ := settle_of_full hp low high h
  exact ⟨c', e', hr, hd, by omega⟩

/-- Only a number whose digits reach beyond the range of exponents cannot be rounded. -/
theorem round_eq_error (hp : 0 < ctx.precision) {signal : Signal}
    (h : ctx.round negative c e = .error signal) :
    signal = .overflow ∧ emax < e + digitCount c := by
  rcases Nat.eq_zero_or_pos c with rfl | hpos
  · rw [round, if_pos rfl] at h
    cases h
  generalize hgrid : max (max e (e + digitCount c - ctx.precision)) ctx.etiny = grid
  rw [round_of_ne_zero negative grid hpos.ne' hgrid] at h
  have hetiny : ctx.etiny ≤ emax := by simp only [etiny, emax]; omega
  have hpos' := digitCount_pos c
  have hd := ctx.rounding.digitCount_units_le negative hpos one_pos (grid - e)
  obtain ⟨hsignal, hlong⟩ := (settle_eq_error_iff hp).1 h
  exact ⟨hsignal, by omega⟩

theorem round_shape (h : ctx.round negative c e = .ok r) :
    ∃ c' e', r = .finite negative c' e' ∧ (c = 0 → c' = 0) := by
  by_cases hc : c = 0
  · rw [round, if_pos hc] at h
    exact ⟨0, _, (Except.ok.inj h).symm, fun _ => rfl⟩
  · rw [round_of_ne_zero negative _ hc rfl] at h
    rcases settle_eq_ok h with ⟨-, rfl⟩ | ⟨-, rfl⟩ <;> exact ⟨_, _, rfl, fun h0 => absurd h0 hc⟩

variable {s s' : Bool} {c' : Nat} {e' : Int}

theorem add_same (ctx : Context) (s : Bool) (c : Nat) (s' : Bool) (c' : Nat) (e : Int) :
    ∃ t, Decimal.signed t (Decimal.signed s c + Decimal.signed s' c').natAbs =
        Decimal.signed s c + Decimal.signed s' c' ∧
      ctx.add (.finite s c e) (.finite s' c' e) =
        ctx.round t (Decimal.signed s c + Decimal.signed s' c').natAbs e := by
  refine ⟨_, Decimal.signed_natAbs ?_, show ctx.addFinite s c e s' c' e = _ by
    simp only [addFinite, min_self, sub_self, Int.toNat_zero, Nat.pow_zero, Nat.mul_one]
    rfl⟩
  intro h
  rw [if_neg h]

theorem mul_finite (ctx : Context) (s : Bool) (c : Nat) (e : Int) (s' : Bool) (c' : Nat)
    (e' : Int) :
    ctx.mul (.finite s c e) (.finite s' c' e') = ctx.round (s != s') (c * c') (e + e') := rfl

theorem div_finite (ctx : Context) (s : Bool) (c : Nat) (e : Int) (s' : Bool) {c' : Nat}
    (e' : Int) (hc' : c' ≠ 0) :
    ctx.div (.finite s c e) (.finite s' c' e') =
      if c = 0 then ctx.round (s != s') 0 (e - e')
      else ctx.divPositive (s != s') c c' (e - e') := by
  obtain _ | c' := c'
  · exact absurd rfl hc'
  · obtain _ | c := c <;> simp only [div, special₂, special, Option.or_none]

theorem divPositive_shape {a b : Nat} {ideal : Int}
    (h : ctx.divPositive negative a b ideal = .ok r) : ∃ c' e', r = .finite negative c' e' := by
  simp only [divPositive] at h
  split at h
  all_goals rcases settle_eq_ok h with ⟨-, rfl⟩ | ⟨-, rfl⟩ <;> exact ⟨_, _, rfl⟩

theorem eq_of_dropZeros {most c' dropped : Nat} (h : dropZeros most c = (c', dropped)) :
    c = c' * 10 ^ dropped := by
  induction most generalizing c dropped with
  | zero =>
    cases h
    exact (Nat.mul_one _).symm
  | succ most ih =>
    rw [dropZeros] at h
    split at h
    · cases h
      have := ih rfl
      rw [Nat.pow_succ, ← Nat.mul_assoc, ← this]
      omega
    · cases h
      exact (Nat.mul_one _).symm

theorem leadingDigit_lt (a b : Nat) : leadingDigit a b < digitCount a := by
  have := digitCount_pos b
  simp only [leadingDigit]
  split <;> omega

theorem divPositive_eq_error (hp : 0 < ctx.precision) {a b : Nat} (ha : 0 < a) (hb : 0 < b)
    {ideal : Int} {signal : Signal} (h : ctx.divPositive negative a b ideal = .error signal) :
    signal = .overflow ∧ emax < ideal + digitCount a := by
  have hlead := leadingDigit_lt a b
  have hetiny : ctx.etiny ≤ emax := by simp only [etiny, emax]; omega
  have hdigits := digitCount_pos a
  simp only [divPositive] at h
  generalize hnear : max (ideal + leadingDigit a b + 1 -
    ((min ctx.precision (quotientDigits a b) : Nat) : Int)) ctx.etiny = near at h
  split at h
  · next hexact =>
    obtain ⟨hle, heq⟩ := hexact
    rcases hdrop : dropZeros (ideal - near).toNat
      (ctx.rounding.units negative a b (near - ideal)) with ⟨c', dropped⟩
    rw [hdrop] at h
    change ctx.settle negative c' (near + dropped) = _ at h
    have hc := eq_of_dropZeros hdrop
    -- the exponent has grown by as many zeros as were dropped, so the first digit is where it was
    have hpos : 0 < c' := by
      rcases Nat.eq_zero_or_pos c' with rfl | hpos
      · rw [hc, Nat.zero_mul, Nat.zero_mul] at heq
        have := Nat.mul_pos ha (Nat.pow_pos (n := (ideal - near).toNat) (show 0 < 10 by omega))
        omega
      · exact hpos
    have hd := ctx.rounding.digitCount_units_le negative ha hb (near - ideal)
    rw [hc, digitCount_mul_pow hpos] at hd
    obtain ⟨hsignal, hlong⟩ := (settle_eq_error_iff hp).1 h
    exact ⟨hsignal, by omega⟩
  · have hd := ctx.rounding.digitCount_units_le negative ha hb
      (max (ideal + leadingDigit a b + 1 - ctx.precision) ctx.etiny - ideal)
    obtain ⟨hsignal, hlong⟩ := (settle_eq_error_iff hp).1 h
    exact ⟨hsignal, by omega⟩

theorem div_eq_error (hp : 0 < ctx.precision) (hc' : c' ≠ 0) {signal : Signal}
    (h : ctx.div (.finite s c e) (.finite s' c' e') = .error signal) :
    signal = .overflow ∧ emax < e - e' + digitCount c := by
  rw [div_finite ctx s c e s' e' hc'] at h
  split at h
  · rw [round, if_pos rfl] at h
    cases h
  · next hc =>
    exact divPositive_eq_error hp (Nat.pos_of_ne_zero hc) (Nat.pos_of_ne_zero hc') h

theorem mul_shape (h : ctx.mul (.finite s c e) (.finite s' c' e') = .ok r) :
    ∃ c'' e'', r = .finite (s != s') c'' e'' ∧ (c = 0 → c'' = 0) := by
  obtain ⟨c'', e'', hr, h0⟩ := round_shape ((mul_finite ctx s c e s' c' e').symm.trans h)
  exact ⟨c'', e'', hr, fun hc => h0 (by rw [hc, Nat.zero_mul])⟩

theorem div_shape (hc' : c' ≠ 0) (h : ctx.div (.finite s c e) (.finite s' c' e') = .ok r) :
    ∃ c'' e'', r = .finite (s != s') c'' e'' ∧ (c = 0 → c'' = 0) := by
  rw [div_finite ctx s c e s' e' hc'] at h
  split at h
  · obtain ⟨c'', e'', hr, h0⟩ := round_shape h
    exact ⟨c'', e'', hr, fun _ => h0 rfl⟩
  · next hc =>
    obtain ⟨c'', e'', hr⟩ := divPositive_shape h
    exact ⟨c'', e'', hr, fun h0 => absurd h0 hc⟩

theorem quantize_finite (ctx : Context) (s : Bool) (e exponent : Int) (hc : c ≠ 0) :
    ctx.quantize (.finite s c e) exponent =
      if digitCount c + e - exponent > ctx.precision then .error .invalidOperation
      else if digitCount (ctx.rounding.units s c 1 (exponent - e)) > ctx.precision then
        .error .invalidOperation
      else .ok (.finite s (ctx.rounding.units s c 1 (exponent - e)) exponent) := by
  simp only [quantize, special, if_neg hc]

theorem quantize_shape {exponent : Int} (h : ctx.quantize (.finite s c e) exponent = .ok r) :
    ∃ c', r = .finite s c' exponent ∧ (c = 0 → c' = 0) := by
  by_cases hc : c = 0
  · simp only [quantize, special, if_pos hc] at h
    exact ⟨0, (Except.ok.inj h).symm, fun _ => rfl⟩
  · rw [quantize_finite ctx s e exponent hc] at h
    split at h
    · cases h
    · split at h
      · cases h
      · exact ⟨_, (Except.ok.inj h).symm, fun h0 => absurd h0 hc⟩

theorem quantize_digits {c' : Nat} {exponent : Int} (hp : 0 < ctx.precision)
    (h : ctx.quantize (.finite s c e) exponent = .ok (.finite s' c' e')) :
    digitCount c' ≤ ctx.precision := by
  by_cases hc : c = 0
  · simp only [quantize, special, if_pos hc] at h
    cases h
    rwa [digitCount_zero]
  · rw [quantize_finite ctx s e exponent hc] at h
    split at h
    · cases h
    · split at h
      · cases h
      · cases h
        omega

theorem isNumber_mul {x y : Decimal} (hx : x.IsNumber) (hy : y.IsNumber)
    (h : ctx.mul x y = .ok r) : r.IsNumber := by
  cases x with
  | nan => exact hx.elim
  | infinity s =>
    cases y with
    | nan => exact hy.elim
    | infinity s' => cases h; trivial
    | finite s' c' e' => cases c' <;> cases h; trivial
  | finite s c e =>
    cases y with
    | nan => exact hy.elim
    | infinity s' => cases c <;> cases h; trivial
    | finite s' c' e' =>
      obtain ⟨c'', e'', rfl, -⟩ := mul_shape h
      trivial

theorem isNumber_div {x y : Decimal} (hx : x.IsNumber) (hy : y.IsNumber)
    (h : ctx.div x y = .ok r) : r.IsNumber := by
  cases x with
  | nan => exact hx.elim
  | infinity s =>
    cases y with
    | nan => exact hy.elim
    | infinity s' => cases h
    | finite s' c' e' => cases h; trivial
  | finite s c e =>
    cases y with
    | nan => exact hy.elim
    | infinity s' => cases h; trivial
    | finite s' c' e' =>
      by_cases hc' : c' = 0
      · subst hc'
        cases c <;> cases h
      · obtain ⟨c'', e'', rfl, -⟩ := div_shape hc' h
        trivial

end Context
end AddOnLoan
