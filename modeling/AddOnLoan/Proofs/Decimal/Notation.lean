import AddOnLoan.Decimal.Text
import AddOnLoan.Proofs.Decimal.Rounded
import AddOnLoan.Proofs.Money.Sums

namespace AddOnLoan

/-- Plain notation with so many places: a minus sign or none, digits, and behind a point as many
digits as there are places. -/
def IsFixedPoint (places : Nat) (cs : List Char) : Prop :=
  ∃ sign whole fraction : List Char, (sign = [] ∨ sign = ['-']) ∧ whole ≠ [] ∧
    fraction.length = places ∧ (∀ c ∈ whole ++ fraction, c.isDigit) ∧
    cs = sign ++ whole ++ if places = 0 then [] else '.' :: fraction

def isNumeral (c : Char) : Bool := c.isDigit || c == '-' || c == '+' || c == '.' || c == 'E'

theorem isDigit_digitChar {d : Nat} (h : d < 10) : (digitChar d).isDigit := by
  interval_cases d <;> rfl

theorem isDigit_digits (n : Nat) : ∀ c ∈ digits n, c.isDigit := by
  induction n using Nat.strongRecOn with
  | ind n ih =>
    by_cases h : n < 10
    · rw [digits_of_lt h, List.forall_mem_singleton]
      exact isDigit_digitChar h
    · rw [digits_of_le (by omega), List.forall_mem_append, List.forall_mem_singleton]
      exact ⟨ih (n / 10) (by omega), isDigit_digitChar (by omega)⟩

theorem length_digits (n : Nat) : (digits n).length = digitCount n := by
  rw [digitCount_eq]
  induction n using Nat.strongRecOn with
  | ind n ih =>
    by_cases h : n < 10
    · rw [digits_of_lt h, countDigits_of_lt h]
      rfl
    · rw [digits_of_le (by omega), countDigits_of_le (by omega), List.length_append,
        ih (n / 10) (by omega)]
      rfl

theorem isNumeral_digits (n : Nat) : ∀ c ∈ digits n, isNumeral c := by
  intro c hc
  simp [isNumeral, isDigit_digits n c hc]

theorem IsFixedPoint.not_mem {places : Nat} {cs : List Char} (h : IsFixedPoint places cs) :
    'E' ∉ cs := by
  obtain ⟨sign, whole, fraction, hsign, -, -, hdigits, rfl⟩ := h
  rw [List.forall_mem_append] at hdigits
  intro hmem
  rw [List.mem_append, List.mem_append] at hmem
  rcases hmem with (hmem | hmem) | hmem
  · rcases hsign with rfl | rfl <;> simp at hmem
  · exact absurd (hdigits.1 _ hmem) (by decide)
  · split at hmem
    · simp at hmem
    · rcases List.mem_cons.1 hmem with hpoint | hmem
      · exact absurd hpoint (by decide)
      · exact absurd (hdigits.2 _ hmem) (by decide)

namespace Decimal

variable {s : Bool} {c places : Nat} {x : Decimal}

theorem mem_scientific (ds : List Char) (adjusted : Int) : 'E' ∈ scientific ds adjusted := by
  simp [scientific]

theorem exists_pointed (ds : List Char) (places : Nat) : ∃ whole fraction : List Char,
    pointed ds places = whole ++ '.' :: fraction ∧ whole ≠ [] ∧ fraction.length = places ∧
      ∃ zeros, whole ++ fraction = List.replicate zeros '0' ++ ds := by
  obtain ⟨filled, hfilled⟩ :
      ∃ filled, List.replicate (places + 1 - ds.length) '0' ++ ds = filled := ⟨_, rfl⟩
  have hlength : places < filled.length := by
    rw [← hfilled, List.length_append, List.length_replicate]
    omega
  refine ⟨filled.take (filled.length - places), filled.drop (filled.length - places), ?_, ?_, ?_,
    places + 1 - ds.length, ?_⟩
  · rw [pointed, hfilled]
  · rw [ne_eq, List.take_eq_nil_iff]
    rintro (h | rfl)
    · omega
    · exact absurd hlength (by simp)
  · rw [List.length_drop]
    omega
  · rw [List.take_append_drop, hfilled]

theorem isDigit_filled {zeros c : Nat} :
    ∀ d ∈ List.replicate zeros '0' ++ digits c, d.isDigit := by
  rw [List.forall_mem_append]
  exact ⟨fun d hd => by rw [List.eq_of_mem_replicate hd]; rfl, isDigit_digits c⟩

theorem text_finite (s : Bool) (c : Nat) (e : Int) :
    (finite s c e).text.toList = (if s then ['-'] else []) ++ finiteText c e := by
  cases s <;> simp [text, negative]

theorem finiteText_neg (c places : Nat) :
    finiteText c (-(places : Int)) =
      if digitCount c + 5 < places then
        scientific (digits c) (-(places : Int) + (digitCount c - 1 : Int))
      else if places = 0 then digits c else pointed (digits c) places := by
  have hpos := digitCount_pos c
  simp only [finiteText, length_digits, Int.natAbs_neg, Int.natAbs_natCast, neg_eq_zero,
    Int.natCast_eq_zero]
  by_cases h : digitCount c + 5 < places
  · rw [if_pos h, if_pos (by omega)]
  · rw [if_neg h, if_neg (by omega)]

/-- A number below one millionth has at least six zeros in front of its digits. -/
theorem millionth_le_iff (s : Bool) (c : Nat) {places : Nat} (h : 6 < places) :
    1 / 10 ^ 6 ≤ |(finite s c (-(places : Int))).toRat| ↔ places ≤ digitCount c + 5 := by
  have hsix : (10 : ℚ) ^ places = 10 ^ (places - 6) * 10 ^ 6 := by
    rw [← pow_add, Nat.sub_add_cancel h.le]
  have habs : |(finite s c (-(places : Int))).toRat| = c / 10 ^ places := by
    rw [toRat_finite, abs_mul, abs_signed, abs_of_pos (by positivity), zpow_neg, zpow_natCast,
      div_eq_mul_inv]
  rw [habs, hsix, div_le_div_iff₀ (by positivity) (by positivity), one_mul,
    mul_le_mul_iff_left₀ (by positivity)]
  have hdigits := lt_digitCount_iff (k := places - 6) (n := c) (by omega)
  rw [show ((10 : ℚ) ^ (places - 6) ≤ c) ↔ 10 ^ (places - 6) ≤ c by exact_mod_cast Iff.rfl,
    ← hdigits]
  omega

/-- Whether a number is in plain notation with its places. -/
theorem isFixedPoint_text_iff (hx : x.HasPlaces places) :
    IsFixedPoint places x.text.toList ↔ places ≤ 6 ∨ 1 / 10 ^ 6 ≤ |x.toRat| := by
  obtain ⟨s, c, rfl⟩ := hx.eq_finite
  rw [text_finite, finiteText_neg]
  have hcut : digitCount c + 5 < places ↔
      ¬(places ≤ 6 ∨ 1 / 10 ^ 6 ≤ |(finite s c (-(places : Int))).toRat|) := by
    have hpos := digitCount_pos c
    by_cases hsix : places ≤ 6
    · simp only [hsix, true_or, not_true_eq_false, iff_false]
      omega
    · rw [millionth_le_iff s c (by omega)]
      omega
  by_cases hshort : digitCount c + 5 < places
  · rw [if_pos hshort]
    refine iff_of_false (fun hfixed => ?_) (hcut.1 hshort)
    exact hfixed.not_mem (List.mem_append_right _ (mem_scientific _ _))
  · rw [if_neg hshort]
    refine iff_of_true ?_ (not_not.1 (mt hcut.2 hshort))
    have hsign : (if s then ['-'] else []) = [] ∨ (if s then ['-'] else []) = ['-'] := by
      cases s <;> simp
    by_cases hzero : places = 0
    · refine ⟨_, digits c, [], hsign, ?_, hzero.symm, ?_, ?_⟩
      · rw [← List.length_pos_iff, length_digits]
        exact digitCount_pos c
      · rw [List.append_nil]
        exact isDigit_digits c
      · simp [hzero]
    · obtain ⟨whole, fraction, hpointed, hwhole, hlength, zeros, hfilled⟩ :=
        exists_pointed (digits c) places
      refine ⟨_, whole, fraction, hsign, hwhole, hlength, ?_, ?_⟩
      · exact hfilled ▸ isDigit_filled
      · rw [if_neg hzero, if_neg hzero, hpointed, List.append_assoc]

theorem finiteText_ne_nil (c : Nat) (e : Int) : finiteText c e ≠ [] := by
  rw [finiteText]
  split
  · exact List.ne_nil_of_mem (mem_scientific _ _)
  · split
    · rw [← List.length_pos_iff, length_digits]
      exact digitCount_pos c
    · obtain ⟨whole, fraction, hpointed, -⟩ := exists_pointed (digits c) e.natAbs
      rw [hpointed]
      exact List.append_ne_nil_of_right_ne_nil _ (List.cons_ne_nil _ _)

theorem text_ne_nil (hx : x.isFinite) : x.text.toList ≠ [] := by
  obtain ⟨s, c, e, rfl⟩ := eq_finite hx
  rw [text_finite]
  exact List.append_ne_nil_of_right_ne_nil _ (finiteText_ne_nil c e)

theorem isNumeral_finiteText (c : Nat) (e : Int) : ∀ d ∈ finiteText c e, isNumeral d := by
  have hdigits := isNumeral_digits c
  rw [finiteText]
  split
  · rw [scientific, List.forall_mem_append, List.forall_mem_append, List.forall_mem_cons,
      List.forall_mem_cons]
    refine ⟨⟨fun d hd => hdigits d (List.mem_of_mem_take hd), ?_⟩, rfl, ?_, isNumeral_digits _⟩
    · split
      · exact List.forall_mem_nil _
      · rw [List.forall_mem_cons]
        exact ⟨rfl, fun d hd => hdigits d (List.mem_of_mem_drop hd)⟩
    · split <;> rfl
  · split
    · exact hdigits
    · obtain ⟨whole, fraction, hpointed, -, -, zeros, hfilled⟩ :=
        exists_pointed (digits c) e.natAbs
      have hnumeral : ∀ d ∈ whole ++ fraction, isNumeral d := by
        rw [hfilled]
        exact fun d hd => by simp [isNumeral, isDigit_filled d hd]
      rw [List.forall_mem_append] at hnumeral
      rw [hpointed, List.forall_mem_append, List.forall_mem_cons]
      exact ⟨hnumeral.1, rfl, hnumeral.2⟩

theorem isNumeral_text (hx : x.isFinite) : ∀ d ∈ x.text.toList, isNumeral d := by
  obtain ⟨s, c, e, rfl⟩ := eq_finite hx
  rw [text_finite, List.forall_mem_append]
  exact ⟨by cases s <;> simp [isNumeral], isNumeral_finiteText c e⟩

end Decimal
end AddOnLoan
