import AddOnLoan.Proofs.Decimal.Digits

namespace AddOnLoan

namespace Rounding

def toInt (mode : Rounding) (x : ℚ) : ℤ :=
  let inward := if 0 ≤ x then ⌊x⌋ else ⌈x⌉
  let outward := if 0 ≤ x then ⌈x⌉ else ⌊x⌋
  match mode with
  | .up => outward
  | .down => inward
  | .ceiling => ⌈x⌉
  | .floor => ⌊x⌋
  -- these two differ only half-way between two whole numbers
  | .halfUp => if 0 ≤ x then ⌊x + 1 / 2⌋ else ⌈x - 1 / 2⌉
  | .halfDown => if 0 ≤ x then ⌈x - 1 / 2⌉ else ⌊x + 1 / 2⌋
  | .halfEven => if Even ⌊x + 1 / 2⌋ then ⌊x + 1 / 2⌋ else ⌈x - 1 / 2⌉
  | .zeroFiveUp => if inward % 5 = 0 then outward else inward

def isNearest : Rounding → Bool
  | .halfUp | .halfDown | .halfEven => true
  | _ => false

/-- The direction that does to a number what another does to its opposite. -/
def mirrored : Rounding → Rounding
  | .ceiling => .floor
  | .floor => .ceiling
  | mode => mode

variable (mode : Rounding) {x y : ℚ}

/-- The two neighbours of a number at half a unit are one, or follow one another half-way. -/
theorem floor_add_half (x : ℚ) : ⌊x + 1 / 2⌋ = ⌈x - 1 / 2⌉ ∨ ⌊x + 1 / 2⌋ = ⌈x - 1 / 2⌉ + 1 := by
  have hfloor : ⌈x - 1 / 2⌉ ≤ ⌊x + 1 / 2⌋ := by
    rw [Int.le_floor]
    linarith [Int.ceil_lt_add_one (x - 1 / 2)]
  have hceil : ⌊x + 1 / 2⌋ ≤ ⌈x - 1 / 2⌉ + 1 := by
    have h := (Int.floor_le (x + 1 / 2)).trans
      (show x + 1 / 2 ≤ ⌈x - 1 / 2⌉ + 1 by linarith [Int.le_ceil (x - 1 / 2)])
    exact_mod_cast h
  omega

theorem floor_le_toInt (x : ℚ) : ⌊x⌋ ≤ mode.toInt x := by
  have hle : ⌊x⌋ ≤ ⌈x⌉ := Int.floor_le_ceil x
  have hup : ⌊x⌋ ≤ ⌊x + 1 / 2⌋ := Int.floor_le_floor (by linarith)
  have hdown : ⌊x⌋ ≤ ⌈x - 1 / 2⌉ := by
    have h : (⌊x⌋ : ℚ) - 1 < ⌈x - 1 / 2⌉ := by
      linarith [Int.floor_le x, Int.le_ceil (x - 1 / 2)]
    have : ⌊x⌋ - 1 < ⌈x - 1 / 2⌉ := by exact_mod_cast h
    omega
  cases mode <;> simp only [toInt] <;> (try split_ifs) <;> omega

theorem toInt_le_ceil (x : ℚ) : mode.toInt x ≤ ⌈x⌉ := by
  have hle : ⌊x⌋ ≤ ⌈x⌉ := Int.floor_le_ceil x
  have hup : ⌊x + 1 / 2⌋ ≤ ⌈x⌉ := by
    have h : (⌊x + 1 / 2⌋ : ℚ) < ⌈x⌉ + 1 := by
      linarith [Int.floor_le (x + 1 / 2), Int.le_ceil x]
    have : ⌊x + 1 / 2⌋ < ⌈x⌉ + 1 := by exact_mod_cast h
    omega
  have hdown : ⌈x - 1 / 2⌉ ≤ ⌈x⌉ := Int.ceil_le_ceil (by linarith)
  cases mode <;> simp only [toInt] <;> (try split_ifs) <;> omega

@[simp]
theorem toInt_intCast (k : ℤ) : mode.toInt k = k := by
  have h := mode.floor_le_toInt k
  have h' := mode.toInt_le_ceil k
  rw [Int.floor_intCast] at h
  rw [Int.ceil_intCast] at h'
  omega

@[simp]
theorem toInt_zero : mode.toInt 0 = 0 := by
  rw [← Int.cast_zero, toInt_intCast]

theorem abs_toInt_sub_lt (x : ℚ) : |(mode.toInt x : ℚ) - x| < 1 := by
  have hlow : (⌊x⌋ : ℚ) ≤ mode.toInt x := by exact_mod_cast mode.floor_le_toInt x
  have hhigh : (mode.toInt x : ℚ) ≤ ⌈x⌉ := by exact_mod_cast mode.toInt_le_ceil x
  rw [abs_lt]
  constructor
  · linarith [Int.lt_floor_add_one x]
  · linarith [Int.ceil_lt_add_one x]

theorem abs_toInt_sub_le_half (h : mode.isNearest) (x : ℚ) :
    |(mode.toInt x : ℚ) - x| ≤ 1 / 2 := by
  have hup : |(⌊x + 1 / 2⌋ : ℚ) - x| ≤ 1 / 2 := by
    rw [abs_le]
    constructor
    · linarith [Int.lt_floor_add_one (x + 1 / 2)]
    · linarith [Int.floor_le (x + 1 / 2)]
  have hdown : |(⌈x - 1 / 2⌉ : ℚ) - x| ≤ 1 / 2 := by
    rw [abs_le]
    constructor
    · linarith [Int.le_ceil (x - 1 / 2)]
    · linarith [Int.ceil_lt_add_one (x - 1 / 2)]
  cases mode with
  | halfUp | halfDown | halfEven =>
    simp only [toInt]
    split_ifs <;> assumption
  | _ => cases h

/-- Many rounded shares of a whole number miss it by less than a unit for each. -/
theorem abs_mul_toInt_sub_lt {n : ℤ} (hn : 0 < n) (a : ℤ) :
    |n * mode.toInt (a / n) - a| < n := by
  have hnq : (0 : ℚ) < n := by exact_mod_cast hn
  have h := mul_lt_mul_of_pos_left (mode.abs_toInt_sub_lt (a / n)) hnq
  rw [← abs_of_pos hnq, ← abs_mul, mul_sub, abs_of_pos hnq, mul_div_cancel₀ _ hnq.ne',
    mul_one] at h
  exact_mod_cast h

theorem abs_mul_toInt_sub_le_half (h : mode.isNearest) {n : ℤ} (hn : 0 < n) (a : ℤ) :
    2 * |n * mode.toInt (a / n) - a| ≤ n := by
  have hnq : (0 : ℚ) < n := by exact_mod_cast hn
  have h := mul_le_mul_of_nonneg_left (mode.abs_toInt_sub_le_half h (a / n)) hnq.le
  rw [← abs_of_pos hnq, ← abs_mul, mul_sub, abs_of_pos hnq, mul_div_cancel₀ _ hnq.ne'] at h
  have hdouble : 2 * |(n : ℚ) * mode.toInt (a / n) - a| ≤ n := by linarith
  exact_mod_cast hdouble

theorem toInt_nonneg (h : 0 ≤ x) : 0 ≤ mode.toInt x :=
  (Int.floor_nonneg.2 h).trans (mode.floor_le_toInt x)

theorem toInt_share_nonneg {a n : ℤ} (ha : 0 ≤ a) (hn : 0 < n) : 0 ≤ mode.toInt (a / n) :=
  mode.toInt_nonneg (div_nonneg (by exact_mod_cast ha) (by exact_mod_cast hn.le))

theorem toInt_le_of_inward (hmode : mode = .down ∨ mode = .floor) (h : 0 ≤ x) :
    (mode.toInt x : ℚ) ≤ x := by
  rcases hmode with rfl | rfl <;> simp only [toInt, if_pos h] <;> exact Int.floor_le x

theorem toInt_neg (x : ℚ) : mode.toInt (-x) = -mode.mirrored.toInt x := by
  have hup : ⌊-x + 1 / 2⌋ = -⌈x - 1 / 2⌉ := by
    rw [← Int.floor_neg]
    ring_nf
  have hdown : ⌈-x - 1 / 2⌉ = -⌊x + 1 / 2⌋ := by
    rw [← Int.ceil_neg, neg_add']
  have heven := floor_add_half x
  rcases lt_trichotomy x 0 with hneg | rfl | hpos
  · have h : 0 ≤ -x := by linarith
    cases mode <;> simp only [toInt, mirrored, if_pos h, if_neg hneg.not_ge, hup, hdown,
      Int.floor_neg, Int.ceil_neg, even_neg] <;> grind
  · rw [neg_zero, toInt_zero, toInt_zero, neg_zero]
  · have h : ¬0 ≤ -x := by linarith
    cases mode <;> simp only [toInt, mirrored, if_pos hpos.le, if_neg h, hup, hdown,
      Int.floor_neg, Int.ceil_neg, even_neg] <;> grind

/-- Two numbers lie alike if no half of a whole number has one of them on another side. -/
def Alike (x y : ℚ) : Prop :=
  ∀ k : ℤ, (k ≤ 2 * x ↔ k ≤ 2 * y) ∧ (2 * x ≤ k ↔ 2 * y ≤ k)

namespace Alike

theorem floor_eq (h : Alike x y) (a : ℤ) : ⌊x + a / 2⌋ = ⌊y + a / 2⌋ := by
  apply eq_of_forall_le_iff
  intro k
  have hk := (h (2 * k - a)).1
  rw [Int.le_floor, Int.le_floor]
  push_cast at hk
  constructor
  · intro hx
    linarith [hk.1 (by linarith)]
  · intro hy
    linarith [hk.2 (by linarith)]

theorem ceil_eq (h : Alike x y) (a : ℤ) : ⌈x + a / 2⌉ = ⌈y + a / 2⌉ := by
  apply eq_of_forall_ge_iff
  intro k
  have hk := (h (2 * k - a)).2
  rw [Int.ceil_le, Int.ceil_le]
  push_cast at hk
  constructor
  · intro hx
    linarith [hk.1 (by linarith)]
  · intro hy
    linarith [hk.2 (by linarith)]

theorem nonneg_iff (h : Alike x y) : 0 ≤ x ↔ 0 ≤ y := by
  have h0 := (h 0).1
  rw [Int.cast_zero] at h0
  constructor
  · intro hx
    linarith [h0.1 (by linarith)]
  · intro hy
    linarith [h0.2 (by linarith)]

/-- Only the halves of whole numbers count in rounding. -/
theorem toInt_eq (h : Alike x y) : mode.toInt x = mode.toInt y := by
  have hfloor := h.floor_eq 0
  have hceil := h.ceil_eq 0
  have hup := h.floor_eq 1
  have hdown := h.ceil_eq (-1)
  rw [Int.cast_zero, zero_div, add_zero, add_zero] at hfloor hceil
  rw [Int.cast_one] at hup
  rw [Int.cast_neg, Int.cast_one, neg_div, ← sub_eq_add_neg, ← sub_eq_add_neg] at hdown
  simp only [toInt, hfloor, hceil, hup, hdown, h.nonneg_iff]

end Alike

def Leaves (part : ℚ) : Tail → Prop
  | .exact => part = 0
  | .belowHalf => 0 < part ∧ part < 1 / 2
  | .half => part = 1 / 2
  | .aboveHalf => 1 / 2 < part ∧ part < 1

theorem leaves_ofRemainder {r d : Nat} (h : r < d) : Leaves (r / d) (.ofRemainder r d) := by
  have hd : (0 : ℚ) < d := by exact_mod_cast (Nat.zero_le r).trans_lt h
  have hlt : (r : ℚ) / d < 1 := by
    rw [div_lt_one hd]
    exact_mod_cast h
  unfold Tail.ofRemainder
  split_ifs with hzero hbelow hhalf
  · rw [hzero, Nat.cast_zero]
    exact zero_div _
  · have hpos : (0 : ℚ) < r := by exact_mod_cast Nat.pos_of_ne_zero hzero
    refine ⟨by positivity, ?_⟩
    rw [div_lt_div_iff₀ hd two_pos, mul_comm, one_mul]
    exact_mod_cast hbelow
  · change (r : ℚ) / d = 1 / 2
    rw [div_eq_div_iff hd.ne' two_ne_zero, mul_comm, one_mul]
    exact_mod_cast hhalf
  · refine ⟨?_, hlt⟩
    rw [div_lt_div_iff₀ two_pos hd, mul_comm _ (2 : ℚ), one_mul]
    have : d < 2 * r := by omega
    exact_mod_cast this

/-- Where a number lies between two neighbours is all that a direction looks at. -/
theorem toInt_add_part (q : Nat) {part : ℚ} {tail : Tail} (h : Leaves part tail) :
    mode.toInt (q + part) = if mode.away false q tail then (q : ℤ) + 1 else q := by
  by_cases hexact : tail = .exact
  · subst hexact
    obtain rfl : part = 0 := h
    have hint := mode.toInt_intCast q
    rw [Int.cast_natCast] at hint
    rw [add_zero, hint, if_neg (by cases mode <;> simp [away])]
  have hq : (0 : ℚ) ≤ q := q.cast_nonneg
  obtain ⟨hpos, hlt⟩ : 0 < part ∧ part < 1 := by
    cases tail <;> simp only [Leaves, reduceCtorEq, not_true_eq_false] at h hexact <;>
      constructor <;> linarith
  have hx : 0 ≤ (q : ℚ) + part := by linarith
  have hfloor : ⌊(q : ℚ) + part⌋ = q :=
    Int.floor_eq_iff.2 ⟨by push_cast; linarith, by push_cast; linarith⟩
  have hceil : ⌈(q : ℚ) + part⌉ = q + 1 :=
    Int.ceil_eq_iff.2 ⟨by push_cast; linarith, by push_cast; linarith⟩
  have hup : ⌊(q : ℚ) + part + 1 / 2⌋ = if tail = .belowHalf then (q : ℤ) else q + 1 := by
    rw [Int.floor_eq_iff]
    cases tail <;> simp only [Leaves] at h <;> simp <;> constructor <;> linarith
  have hdown : ⌈(q : ℚ) + part - 1 / 2⌉ = if tail = .aboveHalf then (q : ℤ) + 1 else q := by
    rw [Int.ceil_eq_iff]
    cases tail <;> simp only [Leaves] at h <;> simp <;> constructor <;> linarith
  cases mode <;> simp only [toInt, if_pos hx, hfloor, hceil, hup, hdown] <;>
    cases tail <;> simp [away] at hexact ⊢ <;> grind

theorem quotient_eq_toInt (n : Nat) {d : Nat} (hd : 0 < d) :
    (mode.quotient false n d : ℤ) = mode.toInt (n / d) := by
  have hd' : (0 : ℚ) < d := by exact_mod_cast hd
  have hx : (n : ℚ) / d = (n / d : Nat) + (n % d : Nat) / d := by
    rw [div_eq_iff hd'.ne', add_mul, div_mul_cancel₀ _ hd'.ne', mul_comm]
    exact_mod_cast (Nat.div_add_mod n d).symm
  rw [hx, mode.toInt_add_part (n / d) (leaves_ofRemainder (Nat.mod_lt n hd)), quotient]
  split <;> push_cast <;> rfl

theorem quotient_true (n d : Nat) : mode.quotient true n d = mode.mirrored.quotient false n d := by
  cases mode <;> simp only [quotient, mirrored] <;> cases Tail.ofRemainder (n % d) d <;> rfl

theorem speck_true : mode.speck true = mode.mirrored.speck false := by
  cases mode <;> rfl

theorem units_true (a b : Nat) (shift : Int) :
    mode.units true a b shift = mode.mirrored.units false a b shift := by
  simp only [units, quotient_true, speck_true]

theorem speck_eq_toInt (hpos : 0 < x) (hlt : x < 1 / 2) :
    (mode.speck false : ℤ) = mode.toInt x := by
  have hleaves : Leaves x .belowHalf := ⟨hpos, hlt⟩
  have h := mode.toInt_add_part 0 hleaves
  rw [Nat.cast_zero, zero_add] at h
  rw [h, speck]
  split <;> rfl

theorem units_eq_toInt {a b : Nat} (ha : 0 < a) (hb : 0 < b) (shift : Int) :
    (mode.units false a b shift : ℤ) = mode.toInt (a / b / 10 ^ shift) := by
  have ha' : (0 : ℚ) < a := by exact_mod_cast ha
  have hb' : (1 : ℚ) ≤ b := by exact_mod_cast hb
  rcases le_or_gt shift 0 with hs | hs
  · rw [units_of_nonpos _ _ hs, quotient_eq_toInt _ _ hb, zpow_of_nonpos hs]
    push_cast
    rw [div_div_eq_mul_div, div_one, div_mul_eq_mul_div]
  rcases lt_or_ge (digitCount a : Int) shift with hd | hd
  · rw [units, if_neg (by omega), if_pos hd]
    apply speck_eq_toInt
    · positivity
    rw [div_lt_iff₀ (by positivity)]
    calc (a : ℚ) / b ≤ a := div_le_self ha'.le hb'
      _ < 10 ^ digitCount a := by exact_mod_cast lt_pow_digitCount a
      _ = 10 ^ (digitCount a : Int) := (zpow_natCast _ _).symm
      _ ≤ 10 ^ (shift - 1) := zpow_le_zpow_right₀ (by norm_num) (by omega)
      _ ≤ 1 / 2 * 10 ^ shift := by
        rw [zpow_sub₀ (by norm_num)]
        have : (0 : ℚ) < 10 ^ shift := by positivity
        linarith
  · rw [units_of_le _ _ hs hd, quotient_eq_toInt _ _ (Nat.mul_pos hb (Nat.pow_pos (by omega))),
      zpow_of_nonneg hs.le]
    push_cast
    rw [div_div]

/-- The whole number of units that the arithmetic leaves of a number is the exact one, rounded. -/
theorem signed_units (negative : Bool) {a b : Nat} (ha : 0 < a) (hb : 0 < b) (shift : Int) :
    Decimal.signed negative (mode.units negative a b shift) =
      mode.toInt (Decimal.signed negative a / b / 10 ^ shift) := by
  cases negative with
  | false => exact mode.units_eq_toInt ha hb shift
  | true =>
    simp only [Decimal.signed, if_true, units_true, mode.mirrored.units_eq_toInt ha hb]
    push_cast
    rw [neg_div, neg_div, toInt_neg]

end Rounding
end AddOnLoan
