import AddOnLoan.Proofs.Engine.TermRate

namespace AddOnLoan

variable {c : Currency} {lent total : ℤ} {mode : Rounding}

theorem modest_of_lt (mode : Rounding) {n : ℕ} (hn : 0 < n) (hn' : (n : ℤ) < 10 ^ 49)
    (hlent : 0 ≤ lent) (hlent' : lent < 10 ^ 49) (htotal : 0 ≤ total) (htotal' : total < 10 ^ 49) :
    Modest lent total (mode.toInt (lent / n)) (mode.toInt (total / n)) n := by
  have hdrift := mode.abs_mul_toInt_sub_lt (n := n) (by omega) lent
  have hdrift' := mode.abs_mul_toInt_sub_lt (n := n) (by omega) total
  rw [Int.cast_natCast] at hdrift hdrift'
  have hshare := (abs_lt.1 hdrift).2
  have hshare' := (abs_lt.1 hdrift').2
  exact
    { lent_nonneg := hlent
      lent_lt := hlent'
      total_nonneg := htotal
      total_lt := htotal'
      principal_nonneg := mode.toInt_nonneg (by positivity)
      principal_lt := by omega
      interest_nonneg := mode.toInt_nonneg (by positivity)
      interest_lt := by omega }

namespace Money

variable {m r : Money} {n : ℤ}

/-- A share that is cut off is too small for all but one of the shares to come to more than the
whole, though its fifty digits may have been rounded up. -/
theorem share_le_of_inward (hmode : mode = .down ∨ mode = .floor) (hm : m.HeldIn c)
    (hnonneg : 0 ≤ m.minor) (hn : 0 < n) (hn' : n < 10 ^ 49)
    (h : m.dividedBy (.ofInt n) (some mode) = .ok r) : (n - 1) * r.minor ≤ m.minor := by
  have hr := minor_of_dividedBy hm hn h
  rcases hnonneg.lt_or_eq with hpos | hzero
  · obtain ⟨place, hplace⟩ := exists_sharedAt hpos.ne' hn hn' c.places_le
    rw [hr]
    obtain ⟨share, hshare⟩ : ∃ x, moneyContext.rounded (m.minor / n / 10 ^ c.places) *
      10 ^ c.places = x := ⟨_, rfl⟩
    rw [hshare] at hplace ⊢
    have hnq : (0 : ℚ) < n := by exact_mod_cast hn
    have hnq' : (n : ℚ) < 10 ^ 49 := by exact_mod_cast hn'
    have hposq : (0 : ℚ) < m.minor := by exact_mod_cast hpos
    have hshare_nonneg : 0 ≤ share := by
      rw [← hshare]
      exact mul_nonneg (moneyContext.rounded_nonneg (by positivity)) (by positivity)
    have hle := mode.toInt_le_of_inward hmode hshare_nonneg
    have herror := (abs_le.1 hplace.error).2
    have hsmall := hplace.small
    rw [abs_of_pos (by positivity)] at hsmall
    have hmul : (n : ℚ) * (m.minor / n) = m.minor := mul_div_cancel₀ _ hnq.ne'
    have hunit : (0 : ℚ) < 10 ^ place := by positivity
    have hbound : ((n - 1 : ℤ) : ℚ) * mode.toInt share ≤ m.minor := by
      have hn1 : (0 : ℚ) ≤ n - 1 := by
        have : (1 : ℚ) ≤ n := by exact_mod_cast hn
        linarith
      push_cast
      calc ((n : ℚ) - 1) * mode.toInt share
          ≤ (n - 1) * (m.minor / n + 10 ^ place / 2) := by gcongr; linarith
        _ = m.minor - m.minor / n + (n - 1) * (10 ^ place / 2) := by
          rw [mul_add, sub_mul, hmul, one_mul]
        _ ≤ m.minor - m.minor / n + 10 ^ 49 * 10 ^ place := by nlinarith
        _ ≤ m.minor := by linarith
    exact_mod_cast hbound
  · rw [hr, ← hzero]
    simp

/-- Shares that are half a unit too large at most, and half a unit of their last digit, come to more
than the whole with one left out only if the whole is below `n (n - 1) / 2`. Where fifty digits end
behind the point, what they add to all shares is less than a unit; where they end before it, the
shares are far larger than their number. -/
theorem mul_share_le_of_large {a lent place : ℤ} (hn : 0 < n) (hlarge : n * (n - 1) ≤ 2 * lent)
    (hfits : n * a < 10 ^ 50) (hsmall : (10 : ℚ) ^ 49 * 10 ^ place ≤ lent / n)
    (hshare : (a : ℚ) ≤ lent / n + 10 ^ place / 2 + 1 / 2) : (n - 1) * a ≤ lent := by
  by_contra hover
  have hlent : 0 ≤ lent := by nlinarith
  have hapos : 0 < a := by nlinarith
  have hcount : n - 1 < 15 * 10 ^ 24 := by
    have hshort : lent < 10 ^ 50 := by linarith
    by_contra hle
    nlinarith
  have hmore : lent + 1 ≤ (n - 1) * a := by omega
  have hnq : (0 : ℚ) < n := by exact_mod_cast hn
  have hcount' : (n : ℚ) - 1 < 15 * 10 ^ 24 := by exact_mod_cast hcount
  have hmore' : (lent : ℚ) + 1 ≤ (n - 1) * a := by exact_mod_cast hmore
  obtain ⟨x, hx⟩ : ∃ x : ℚ, (lent : ℚ) / n = x := ⟨_, rfl⟩
  have hlent' : (lent : ℚ) = n * x := by rw [← hx, mul_div_cancel₀ _ hnq.ne']
  rw [hx] at hsmall hshare
  have hhalf : (n : ℚ) - 1 ≤ 2 * x := by
    have hlarge' : (n : ℚ) * (n - 1) ≤ n * (2 * x) := by
      rw [mul_left_comm, ← hlent']
      exact_mod_cast hlarge
    exact le_of_mul_le_mul_left hlarge' hnq
  have hone : (0 : ℚ) ≤ n - 1 := by
    have : (1 : ℚ) ≤ n := by exact_mod_cast hn
    linarith
  -- the last digits of all shares must make up for a share and for the unit that is too much
  have hgain : x + 1 ≤ (n - 1) * 10 ^ place / 2 + (n - 1) / 2 := by
    have := mul_le_mul_of_nonneg_left hshare hone
    linarith
  have hunit : (0 : ℚ) < 10 ^ place := by positivity
  rcases le_or_gt place (-25) with hplace | hplace
  · have hle : (10 : ℚ) ^ place ≤ 10 ^ (-25 : ℤ) := zpow_le_zpow_right₀ (by norm_num) hplace
    have hall : ((n : ℚ) - 1) * 10 ^ place ≤ 3 / 2 :=
      (mul_le_mul hcount'.le hle hunit.le (by norm_num)).trans (by norm_num)
    linarith
  · have hle : (10 : ℚ) ^ (-24 : ℤ) ≤ 10 ^ place :=
      zpow_le_zpow_right₀ (by norm_num) (by omega)
    have hall := mul_le_mul_of_nonneg_right hcount'.le hunit.le
    have hval : (10 : ℚ) ^ (-24 : ℤ) * 10 ^ 49 = 10 ^ 25 := by norm_num
    linarith

theorem share_le_of_nearest (hmode : mode.isNearest) (hm : m.HeldIn c) (hnonneg : 0 ≤ m.minor)
    (hn : 0 < n) (hn' : n < 10 ^ 49) (hlarge : n * (n - 1) ≤ 2 * m.minor)
    (h : m.dividedBy (.ofInt n) (some mode) = .ok r) (hfits : n * r.minor < 10 ^ 50) :
    (n - 1) * r.minor ≤ m.minor := by
  have hr := minor_of_dividedBy hm hn h
  rcases hnonneg.lt_or_eq with hpos | hzero
  · obtain ⟨place, hplace⟩ := exists_sharedAt hpos.ne' hn hn' c.places_le
    have hnearest := mode.abs_toInt_sub_le_half hmode
      (moneyContext.rounded (m.minor / n / 10 ^ c.places) * 10 ^ c.places)
    rw [← hr] at hnearest
    have hnq : (0 : ℚ) < n := by exact_mod_cast hn
    have hposq : (0 : ℚ) < m.minor := by exact_mod_cast hpos
    have hsmall := hplace.small
    rw [abs_of_pos (by positivity)] at hsmall
    exact mul_share_le_of_large hn hlarge hfits hsmall
      (by linarith [(abs_le.1 hnearest).2, (abs_le.1 hplace.error).2])
  · rw [hr, ← hzero]
    simp

end Money

theorem Decimal.exists_order0 {x : Decimal} (hx : x.isFinite) : ∃ sign, x.order0 = .ok sign := by
  obtain ⟨s, c, e, rfl⟩ := eq_finite hx
  exact ⟨_, rfl⟩

namespace Engine

variable {engine : Engine} {terms : LoanTerms} {dueDates : List Date} {perYear : Decimal}

/-- What terms, due dates and the number of periods in a year must be like. -/
structure Acceptable (terms : LoanTerms) (dueDates : List Date) (perYear : Decimal) : Prop where
  repayments_pos : 1 ≤ terms.repayments
  count : (dueDates.length : Int) = terms.repayments
  perYear_pos : 0 < perYear.toRat
  term_pos : 1 ≤ terms.term
  principal_nonneg : 0 ≤ terms.principal.amount.toRat
  rate_nonneg : 0 ≤ terms.annualRate.toRat
  order : (terms.disbursed :: dueDates).IsChain fun earlier later => ¬later < earlier

structure FiniteInput (terms : LoanTerms) (perYear : Decimal) : Prop where
  principal : terms.principal.IsFinite
  rate : terms.annualRate.isFinite
  perYear : perYear.isFinite

/-- A check has to write a count with too many digits: the number of repayments, or, once that and
the periods are found to be good, the length of the loan. -/
inductive ChecksLongCount (terms : LoanTerms) (dueDates : List Date) (perYear : Decimal) : Prop
  | repayments (h : longestNumeral < digitCount terms.repayments.natAbs)
  | term (hn : 1 ≤ terms.repayments) (hcount : (dueDates.length : Int) = terms.repayments)
    (hpos : 0 < perYear.toRat) (h : longestNumeral < digitCount terms.term.natAbs)

theorem fitsNumeral_repayments (h : ¬ChecksLongCount terms dueDates perYear) :
    fitsNumeral terms.repayments = true := by
  rw [← Bool.not_eq_false, fitsNumeral_eq_false_iff]
  exact fun hlong => h (.repayments hlong)

theorem fitsNumeral_term (h : ¬ChecksLongCount terms dueDates perYear) (hn : 1 ≤ terms.repayments)
    (hcount : (dueDates.length : Int) = terms.repayments) (hpos : 0 < perYear.toRat) :
    fitsNumeral terms.term = true := by
  rw [← Bool.not_eq_false, fitsNumeral_eq_false_iff]
  exact fun hlong => h (.term hn hcount hpos hlong)

theorem admits_iff_acceptable (hinput : FiniteInput terms perYear)
    (hshort : ¬ChecksLongCount terms dueDates perYear) :
    Admits terms dueDates perYear ↔ Acceptable terms dueDates perYear := by
  have hperYear := Decimal.isPositive_iff_toRat hinput.perYear
  have hprincipal := Decimal.isNonneg_iff_toRat (x := terms.principal.amount) hinput.principal
  have hrate := Decimal.isNonneg_iff_toRat hinput.rate
  constructor
  · rintro ⟨-, hn, hcount, hpos, -, hterm, hnonneg, hnonneg', horder⟩
    exact ⟨hn, hcount, hperYear.1 hpos, hterm, hprincipal.1 hnonneg, hrate.1 hnonneg', horder⟩
  · rintro ⟨hn, hcount, hpos, hterm, hnonneg, hnonneg', horder⟩
    exact ⟨fitsNumeral_repayments hshort, hn, hcount, hperYear.2 hpos,
      fitsNumeral_term hshort hn hcount hpos, hterm, hprincipal.2 hnonneg, hrate.2 hnonneg',
      horder⟩

/-- Terms are turned down, but not for being too small to split. -/
def TurnedDown (r : Refusal) : Prop :=
  ∃ e, r = .terms e ∧ ∀ m k, e ≠ .tooSmallToSplit m k

theorem requireOrder_cause (previous : Date) (dates : List Date) :
    Yields (requireOrder previous dates).outcome (fun _ => True) TurnedDown := by
  induction dates generalizing previous with
  | nil => exact .ok trivial
  | cons due rest ih =>
    simp only [requireOrder, Traced.outcome_bind]
    refine Yields.bind ((Traced.require_yields_of_isWritable _ _ rfl).mono_cause ?_)
      fun _ _ => ih due
    rintro _ ⟨-, rfl⟩
    exact ⟨_, rfl, by simp⟩

theorem check_of_longCount (hinput : FiniteInput terms perYear)
    (h : ChecksLongCount terms dueDates perYear) :
    (check terms dueDates perYear).outcome = .error (.input .longNumeral) := by
  by_cases hfit : fitsNumeral terms.repayments = true
  · cases h with
    | repayments hlong =>
      rw [fitsNumeral_eq_false_iff.2 hlong] at hfit
      cases hfit
    | term hn hcount hpos hlong =>
      obtain ⟨sign, hsign, hpos⟩ := (Decimal.isPositive_iff_toRat hinput.perYear).2 hpos
      exact check_of_longTerm hfit hn hcount hsign hpos hlong
  · have hraised : (TermsError.repayments terms.repayments).raised = .input .longNumeral :=
      if_neg hfit
    have hrefused : (Traced.require (1 ≤ terms.repayments) (.repayments terms.repayments)).outcome =
        .error (.input .longNumeral) :=
      Traced.outcome_require_eq_error_iff.2 ⟨fun h => hfit h.1, hraised.symm⟩
    rw [check, Traced.outcome_bind, hrefused]
    rfl

theorem check_cause (hinput : FiniteInput terms perYear) (dueDates : List Date) :
    Yields (check terms dueDates perYear).outcome
      (fun _ => ¬ChecksLongCount terms dueDates perYear)
      (fun r => ¬ChecksLongCount terms dueDates perYear ∧ TurnedDown r ∨
        ChecksLongCount terms dueDates perYear ∧ r = .input .longNumeral) := by
  by_cases hlong : ChecksLongCount terms dueDates perYear
  · rw [check_of_longCount hinput hlong]
    exact .error (.inr ⟨hlong, rfl⟩)
  refine Yields.mono (P := fun _ => True) (E := TurnedDown) ?_ (fun _ _ => hlong)
    fun _ hr => .inl ⟨hlong, hr⟩
  obtain ⟨sign, hsign⟩ := Decimal.exists_order0 hinput.perYear
  obtain ⟨sign', hsign'⟩ := Decimal.exists_order0 hinput.rate
  have hrefused {b : Bool} {e : TermsError} (hwritable : e.isWritable = true)
      (hsplit : ∀ m k, e ≠ .tooSmallToSplit m k) :
      Yields (Traced.require b e).outcome (fun _ => b = true) TurnedDown :=
    (Traced.require_yields_of_isWritable b e hwritable).mono_cause
      fun _ hr => ⟨_, hr.2, hsplit⟩
  have hfit := fitsNumeral_repayments hlong
  simp only [check, Traced.outcome_bind, Traced.outcome_liftM_signal,
    Money.isNegative_eq hinput.principal, hsign, hsign', mapError_ok, ok_bind]
  refine Yields.bind (hrefused hfit (by simp)) fun _ hn => ?_
  refine Yields.bind (hrefused hfit (by simp)) fun _ hcount => ?_
  refine Yields.bind (hrefused rfl (by simp)) fun _ hpos => ?_
  have hpositive : 0 < perYear.toRat :=
    (Decimal.isPositive_iff_toRat hinput.perYear).1 ⟨sign, hsign, of_decide_eq_true hpos⟩
  have hfit' := fitsNumeral_term hlong (of_decide_eq_true hn) (beq_iff_eq.1 hcount) hpositive
  refine Yields.bind (hrefused hfit' (by simp)) fun _ _ => ?_
  refine Yields.bind (hrefused rfl (by simp)) fun _ _ => ?_
  refine Yields.bind (hrefused rfl (by simp)) fun _ _ => ?_
  exact requireOrder_cause _ _

/-- If a principal is too small to split, all checks have been passed and the shares were found,
and the even ones of all rows but the last come to more than it. -/
theorem overdrawn_of_tooSmall (hinput : FiniteInput terms perYear) {m : Money} {k : Int}
    (h : (engine.compute terms dueDates perYear).outcome =
      .error (.terms (.tooSmallToSplit m k))) :
    ∃ s, Admits terms dueDates perYear ∧ engine.shares terms perYear = .ok s ∧
      terms.principal.minor < (terms.repayments - 1) * s.principal.minor ∧
      (terms.repayments * s.principal.minor).natAbs < 10 ^ 50 := by
  cases hcheck : (check terms dueDates perYear).outcome with
  | error r =>
    cases (compute_of_check_error hcheck).symm.trans h
    obtain ⟨-, _, he, hne⟩ | ⟨-, he⟩ := (check_cause hinput dueDates).cause hcheck
    · cases he
      exact absurd rfl (hne m k)
    · cases he
  | ok u =>
    have hadmits := check_eq_ok_iff.1 hcheck
    cases hshares : engine.shares terms perYear with
    | error r =>
      cases (compute_of_shares_error hadmits hshares).symm.trans h
      have := hadmits.repayments_pos
      exact (shares_eq_error (by omega) hshares).elim
    | ok s =>
      obtain ⟨htotal, hinterest, hprincipal⟩ := shares_held hadmits hshares
      obtain ⟨hover, hfits⟩ := overdrawn_of_turned_down hadmits hshares
        ⟨hadmits.principal_held, rfl⟩ ⟨⟨htotal, rfl⟩, ⟨hprincipal, rfl⟩, ⟨hinterest, rfl⟩⟩ h
      rw [hadmits.count] at hover hfits
      exact ⟨s, hadmits, rfl, hover, hfits⟩

theorem never_tooSmall_of_inward (hmode : engine.rounding = some mode)
    (hinward : mode = .down ∨ mode = .floor) (hinput : FiniteInput terms perYear)
    (hn : terms.repayments < 10 ^ 49) (m : Money) (k : Int) :
    (engine.compute terms dueDates perYear).outcome ≠ .error (.terms (.tooSmallToSplit m k)) := by
  intro h
  obtain ⟨s, hadmits, hshares, hover, -⟩ := overdrawn_of_tooSmall hinput h
  obtain ⟨-, -, -, hshare⟩ := shares_eq_ok hshares
  rw [hmode] at hshare
  have hle := Money.share_le_of_inward hinward hadmits.principal_held
    hadmits.principal_minor_nonneg hadmits.repayments_pos hn hshare
  omega

theorem never_tooSmall_of_nearest (hmode : engine.rounding = some mode)
    (hnearest : mode.isNearest) (hinput : FiniteInput terms perYear)
    (hn : terms.repayments < 10 ^ 49)
    (hlarge : terms.repayments * (terms.repayments - 1) ≤ 2 * terms.principal.minor) (m : Money)
    (k : Int) :
    (engine.compute terms dueDates perYear).outcome ≠ .error (.terms (.tooSmallToSplit m k)) := by
  intro h
  obtain ⟨s, hadmits, hshares, hover, hfits⟩ := overdrawn_of_tooSmall hinput h
  obtain ⟨-, -, -, hshare⟩ := shares_eq_ok hshares
  rw [hmode] at hshare
  have hle := Money.share_le_of_nearest hnearest hadmits.principal_held
    hadmits.principal_minor_nonneg hadmits.repayments_pos hn hlarge hshare (by omega)
  omega

/-- There is a schedule, unless the even shares of all rows but the last come to more than the
principal, which turns the terms down. -/
def SplitDecides (engine : Engine) (mode : Rounding) (terms : LoanTerms) (dueDates : List Date)
    (perYear : Decimal) : Prop :=
  if (terms.repayments - 1) * mode.toInt (terms.principal.minor / terms.repayments) ≤
      terms.principal.minor then
    ∃ s, (engine.compute terms dueDates perYear).outcome = .ok s
  else (engine.compute terms dueDates perYear).outcome =
    .error (.terms (.tooSmallToSplit terms.principal terms.repayments))

/-- How it is decided whether there is a schedule, and for which amounts that is certain. The
interest of the term is that for the rate that the engine has found. -/
structure Decides (engine : Engine) (mode : Rounding) (terms : LoanTerms) (dueDates : List Date)
    (perYear : Decimal) : Prop where
  turned_down : ¬ChecksLongCount terms dueDates perYear → ¬Acceptable terms dueDates perYear →
    ∃ e, (engine.compute terms dueDates perYear).outcome = .error (.terms e)
  accepted_iff : ¬ChecksLongCount terms dueDates perYear → Acceptable terms dueDates perYear →
    ∀ rate, engine.rateForTerm terms.annualRate perYear terms.term = .ok rate →
    terms.principal.minor < 10 ^ 49 → terms.principal.product rate.toRat mode < 10 ^ 49 →
    SplitDecides engine mode terms dueDates perYear
  /-- In the range of exponents, and with room for the digits, there is such a rate. -/
  in_range : ¬ChecksLongCount terms dueDates perYear → Acceptable terms dueDates perYear →
    ∀ digits, engine.ratePrecision = some digits →
    digits + digitCount terms.term.natAbs ≤ mostDigits → (∀ most ∈ engine.room, digits ≤ most) →
    StaysInRange mode digits terms.annualRate perYear terms.term →
    terms.principal.minor < 10 ^ 49 →
    terms.principal.product (ratePerPeriod mode digits terms.annualRate perYear * terms.term / 100)
      mode < 10 ^ 49 →
    SplitDecides engine mode terms dueDates perYear
  /-- What stands in the way of a rate is reported, whatever the principal. -/
  rateless : ¬ChecksLongCount terms dueDates perYear → Acceptable terms dueDates perYear →
    ∀ r, engine.rateForTerm terms.annualRate perYear terms.term = .error r →
    (engine.compute terms dueDates perYear).outcome = .error r
  unwritten : ChecksLongCount terms dueDates perYear →
    (engine.compute terms dueDates perYear).outcome = .error (.input .longNumeral)
  nearest : mode.isNearest →
    terms.repayments * (terms.repayments - 1) ≤ 2 * terms.principal.minor → ∀ m k,
    (engine.compute terms dueDates perYear).outcome ≠ .error (.terms (.tooSmallToSplit m k))
  inward : mode = .down ∨ mode = .floor → ∀ m k,
    (engine.compute terms dueDates perYear).outcome ≠ .error (.terms (.tooSmallToSplit m k))

theorem splitDecides_of_rate (hmode : engine.rounding = some mode)
    (hinput : FiniteInput terms perYear) (hn : terms.repayments < 10 ^ 49)
    (hadmits : Admits terms dueDates perYear) {rate : Decimal}
    (hrate : engine.rateForTerm terms.annualRate perYear terms.term = .ok rate)
    (hlent : terms.principal.minor < 10 ^ 49)
    (htotal : terms.principal.product rate.toRat mode < 10 ^ 49) :
    SplitDecides engine mode terms dueDates perYear := by
  have hzero : perYear.isZero = false := by
    obtain ⟨s, c, e, rfl⟩ := Decimal.eq_finite hinput.perYear
    exact beq_false_of_ne (Decimal.isPositive_finite_iff.1 hadmits.perYear_pos).2
  have hfinite := isFinite_rateForTerm hinput.rate hinput.perYear hzero hrate
  obtain ⟨s, hshares, htotal_eq⟩ := exists_shares hadmits hmode hfinite hrate hlent htotal hn
  rw [← htotal_eq] at htotal
  have hcounts := shares_counts hadmits hmode hshares hlent htotal hn
  have hlength := hadmits.count
  have hpos := hadmits.repayments_pos
  have hmodest := modest_of_lt mode (n := dueDates.length) (by omega) (by omega)
    hadmits.principal_minor_nonneg hlent (totalInterest_nonneg hadmits hshares) htotal
  have hcast : (dueDates.length : ℚ) = terms.repayments := by
    rw [← hlength, Int.cast_natCast]
  rw [hcast] at hmodest
  obtain ⟨hover, hle⟩ := compute_of_modest hadmits hshares
    ⟨hadmits.principal_held, rfl⟩ hcounts hmodest
  rw [hlength] at hover hle
  unfold SplitDecides
  split_ifs with h
  · exact hle h
  · exact hover (not_le.1 h)

/-- Whatever the rounding and the finite amounts, terms for fewer than `10 ^ 49` repayments are
accepted or turned down as described. -/
theorem compute_decides (hmode : engine.rounding = some mode)
    (hinput : FiniteInput terms perYear) (hn : terms.repayments < 10 ^ 49)
    (dueDates : List Date) : Decides engine mode terms dueDates perYear := by
  have hadmits (hshort : ¬ChecksLongCount terms dueDates perYear)
      (hfit : Acceptable terms dueDates perYear) : Admits terms dueDates perYear :=
    (admits_iff_acceptable hinput hshort).2 hfit
  refine
    { turned_down := fun hshort hunfit => ?_
      accepted_iff := fun hshort hfit rate hrate hlent htotal =>
        splitDecides_of_rate hmode hinput hn (hadmits hshort hfit) hrate hlent htotal
      in_range := fun hshort hfit digits hdigits hmost hroom hrange hlent htotal => ?_
      rateless := fun hshort hfit r hr =>
        compute_of_shares_error (hadmits hshort hfit) (bind_eq_error_iff.2 (.inl hr))
      unwritten := fun hlong => compute_of_check_error (check_of_longCount hinput hlong)
      nearest := fun hnearest hlarge =>
        never_tooSmall_of_nearest hmode hnearest hinput hn hlarge
      inward := fun hinward => never_tooSmall_of_inward hmode hinward hinput hn }
  · cases hcheck : (check terms dueDates perYear).outcome with
    | error r =>
      rcases (check_cause hinput dueDates).cause hcheck with ⟨-, e, rfl, -⟩ | ⟨hlong, -⟩
      · exact ⟨e, compute_of_check_error hcheck⟩
      · exact absurd hlong hshort
    | ok u =>
      have hadmitted := check_eq_ok_iff.1 hcheck
      exact absurd ((admits_iff_acceptable hinput hshort).1 hadmitted) hunfit
  · obtain ⟨rate, hrate, -, hvalue⟩ := (rateForTerm_spec hdigits hmode hinput.rate hinput.perYear
      hfit.perYear_pos hrange hmost).resolve_right
        fun ⟨⟨most, hmem, hless⟩, _⟩ => absurd (hroom most hmem) (by omega)
    rw [← hvalue] at htotal
    exact splitDecides_of_rate hmode hinput hn (hadmits hshort hfit) hrate hlent htotal

theorem compute_decides_pennies : Decides {} .halfEven pennies penniesDates (.ofNat 1) := by
  have hinput : FiniteInput pennies (.ofNat 1) := ⟨rfl, rfl, rfl⟩
  exact compute_decides rfl hinput (by decide) penniesDates

/-- Nothing is lent, at a rate that has no place in the range of exponents for so long a term. -/
def emptyLoan : LoanTerms :=
  { longLoan with
    principal := .zero longLoan.currency
    annualRate := .finite false 9 999999
    repayments := 1
    term := 1000 }

/-- These terms are as they must be, and there is no interest at any rate, but no schedule either,
and they are not turned down. -/
theorem not_decided_emptyLoan :
    Acceptable emptyLoan (longLoanDates.take 1) (.ofNat 1) ∧
      (∀ rate, emptyLoan.principal.product rate .halfEven = 0) ∧
      (emptyLoan.repayments - 1) * Rounding.halfEven.toInt
        (emptyLoan.principal.minor / emptyLoan.repayments) ≤ emptyLoan.principal.minor ∧
      (({} : Engine).compute emptyLoan (longLoanDates.take 1) (.ofNat 1)).outcome =
        .error (.signal .overflow) := by
  have hzero : emptyLoan.principal.amount.toRat = 0 := by decide +kernel
  refine ⟨?_, fun rate => ?_, by decide +kernel, ?_⟩
  · exact ⟨by decide, by decide, by decide +kernel, by decide, hzero.ge, by decide +kernel,
      by decide +kernel⟩
  · rw [Money.product, hzero, zero_mul, Context.rounded_zero, zero_mul]
    decide +kernel
  · decide +kernel

end Engine
end AddOnLoan
