import AddOnLoan.Proofs.Schedule.Acceptance

namespace AddOnLoan

def Currency.units (c : Currency) (x : Decimal) : ℚ := x.toRat * 10 ^ c.places

theorem Money.Counts.units {c : Currency} {k : ℤ} {m : Money} (hm : m.Counts c k) :
    c.units m.amount = k := by
  rw [Currency.units, hm.held.toRat, hm.minor, div_mul_cancel₀ _ (by positivity)]

/-- The last of `n` shares of a whole, all others of which are even and rounded. It is away from the
even share, rounded or not, by half a unit for each share at most, or by less than a unit. -/
structure LastShare (mode : Rounding) (whole : ℚ) (n : ℤ) (last : ℚ) : Prop where
  eq : last = whole - (n - 1) * mode.toInt (whole / n)
  nearest : mode.isNearest → ∀ share ∈ [(mode.toInt (whole / n) : ℚ), whole / n],
    |last - share| ≤ n / 2
  any : ∀ share ∈ [(mode.toInt (whole / n) : ℚ), whole / n], |last - share| < n

/-- A schedule for a principal over `n` installments, in closed form. -/
structure Schedule.ClosedForm (s : Schedule) (mode : Rounding) (principal : Decimal) (n : ℤ) :
    Prop where
  rows : ∃ even last, s.repayments = even ++ [last] ∧ (even.length : ℤ) + 1 = n ∧
    (∀ row ∈ even,
      s.currency.units row.principalDue = mode.toInt (s.currency.units principal / n) ∧
      s.currency.units row.interestDue = mode.toInt (s.currency.units s.totalInterest / n)) ∧
    LastShare mode (s.currency.units principal) n (s.currency.units last.principalDue) ∧
    LastShare mode (s.currency.units s.totalInterest) n (s.currency.units last.interestDue)
  nonneg : mode.isNearest → n * (n - 1) ≤ s.currency.units principal →
    ∀ row ∈ s.rows, 0 ≤ row.totalDue.toRat

theorem lastShare_of_rounded (mode : Rounding) {n : ℤ} (hn : 0 < n) (whole : ℤ) :
    LastShare mode whole n (whole - (n - 1) * mode.toInt (whole / n) : ℤ) := by
  have hnq : (0 : ℚ) < n := by exact_mod_cast hn
  have hone : (1 : ℚ) ≤ n := by exact_mod_cast hn
  obtain ⟨x, hx⟩ : ∃ x : ℚ, (whole : ℚ) / n = x := ⟨_, rfl⟩
  have hwhole : (whole : ℚ) = n * x := by rw [← hx, mul_div_cancel₀ _ hnq.ne']
  have hlast : ((whole - (n - 1) * mode.toInt x : ℤ) : ℚ) - mode.toInt x =
      n * (x - mode.toInt x) := by
    push_cast
    rw [hwhole]
    ring
  have hlast' : ((whole - (n - 1) * mode.toInt x : ℤ) : ℚ) - x =
      (n - 1) * (x - mode.toInt x) := by
    push_cast
    rw [hwhole]
    ring
  rw [hx]
  refine ⟨?_, fun hnearest => ?_, ?_⟩
  · rw [hx]
    push_cast
    ring
  · have hle := mode.abs_toInt_sub_le_half hnearest x
    rw [abs_sub_comm] at hle
    rw [List.forall_mem_cons, List.forall_mem_singleton, hx, hlast, hlast', abs_mul, abs_mul,
      abs_of_pos hnq, abs_of_nonneg (show (0 : ℚ) ≤ n - 1 by linarith)]
    constructor <;> nlinarith
  · have hlt := mode.abs_toInt_sub_lt x
    rw [abs_sub_comm] at hlt
    rw [List.forall_mem_cons, List.forall_mem_singleton, hx, hlast, hlast', abs_mul, abs_mul,
      abs_of_pos hnq, abs_of_nonneg (show (0 : ℚ) ≤ n - 1 by linarith)]
    constructor <;> nlinarith [abs_nonneg (x - mode.toInt x)]

/-- Where the principal is large beside the number of installments, what the last one takes back in
principal and in interest is less than one installment. -/
theorem lastShares_nonneg {mode : Rounding} (hmode : mode.isNearest) {n lent total : ℤ}
    (hn : 0 < n) (htotal : 0 ≤ total) (hlent : n * (n - 1) ≤ lent) :
    0 ≤ lent - (n - 1) * mode.toInt (lent / n) + (total - (n - 1) * mode.toInt (total / n)) := by
  have hdrift := mode.abs_mul_toInt_sub_le_half hmode hn lent
  have hdrift' := mode.abs_mul_toInt_sub_le_half hmode hn total
  have hle := le_abs_self (n * mode.toInt (lent / n) - lent)
  have hle' := le_abs_self (n * mode.toInt (total / n) - total)
  have hprod : 0 ≤ n * (lent - (n - 1) * mode.toInt (lent / n) +
      (total - (n - 1) * mode.toInt (total / n))) := by nlinarith
  exact nonneg_of_mul_nonneg_right hprod hn

namespace Engine

variable {engine : Engine} {terms : LoanTerms} {dueDates : List Date} {perYear : Decimal}
  {s : Schedule} {mode : Rounding} {total a b : ℤ}

/-- The rows of a run with even shares `a` and `b`: the last one takes what all others leave. -/
theorem Run.exists_rows (run : Run engine terms dueDates perYear)
    (hs : schedule terms run.shares run.full = .ok s)
    (hshares : run.shares.Counts terms.currency total a b) :
    ∃ even last, s.repayments = even ++ [last] ∧
      (even.length : ℤ) + 1 = terms.repayments ∧
      (∀ row ∈ even, terms.currency.units row.principalDue = a ∧
        terms.currency.units row.interestDue = b) ∧
      terms.currency.units last.principalDue =
        (terms.principal.minor - (terms.repayments - 1) * a : ℤ) ∧
      terms.currency.units last.interestDue = (total - (terms.repayments - 1) * b : ℤ) := by
  have hlent : terms.principal.Counts terms.currency terms.principal.minor :=
    ⟨run.principal_held, rfl⟩
  have heven := counted_of_foldlM (P := Progress.Even terms.currency _ a b)
    (fun k p due q hp hq => hp.collect hshares.principal hshares.interest hq) run.even_eq
    (.start hlent)
  obtain ⟨even, hrows, hlength, hdue⟩ := counted_of_foldlM
    (P := Progress.Repeats run.payout run.shares.principal.amount run.shares.interest.amount)
    (fun k p due q hp hq => hp.collect hq) run.even_eq .start
  rw [zero_add] at heven hlength
  obtain ⟨l, hl, -, hcollect⟩ := collectLast_eq_ok run.full_eq
  have hlast := (lastShares_counts hlent hshares heven hl).1
  have hcount : (run.first.length : ℤ) + 1 = terms.repayments := by
    have hlength := congrArg List.length run.dueDates_eq
    rw [List.length_append, List.length_singleton] at hlength
    rw [← run.admits.count, hlength, Nat.cast_add, Nat.cast_one]
  obtain ⟨_, _, _, _, _, -, -, -, -, -, hfull⟩ := Progress.collect_eq_ok hcollect
  have hreverse : s.rows = run.full.rows.reverse := by
    obtain ⟨_, -, rfl⟩ := schedule_eq_ok hs
    rfl
  rw [run.rows_eq hs, hfull, List.reverse_cons, hrows, List.reverse_append,
    List.reverse_singleton, List.singleton_append, List.cons_append, List.cons.injEq] at hreverse
  rw [← hcount, add_sub_cancel_right]
  refine ⟨even.reverse, _, hreverse.2, by rw [List.length_reverse, hlength], ?_,
    hlast.principal.units, hlast.interest.units⟩
  intro row hrow
  rw [List.mem_reverse] at hrow
  rw [(hdue row hrow).1, (hdue row hrow).2]
  exact ⟨hshares.principal.units, hshares.interest.units⟩

theorem Run.totalDue_nonneg (run : Run engine terms dueDates perYear)
    (hs : schedule terms run.shares run.full = .ok s)
    (hshares : run.shares.Counts terms.currency total a b) (ha : 0 ≤ a) (hb : 0 ≤ b)
    (hlast : 0 ≤ terms.principal.minor - (terms.repayments - 1) * a +
      (total - (terms.repayments - 1) * b)) : ∀ row ∈ s.rows, 0 ≤ row.totalDue.toRat := by
  obtain ⟨even, last, hrows, -, heven, hprincipal, hinterest⟩ := run.exists_rows hs hshares
  have hdue : ∀ row ∈ s.repayments,
      0 ≤ terms.currency.units row.principalDue + terms.currency.units row.interestDue := by
    rw [hrows, List.forall_mem_append, List.forall_mem_singleton, hprincipal, hinterest]
    refine ⟨fun row hrow => ?_, by exact_mod_cast hlast⟩
    rw [(heven row hrow).1, (heven row hrow).2]
    exact_mod_cast add_nonneg ha hb
  intro row hrow
  have hmem : row ∈ run.full.rows := by
    obtain ⟨_, -, rfl⟩ := schedule_eq_ok hs
    exact List.mem_reverse.1 hrow
  rw [run.rows_eq hs, List.mem_cons] at hrow
  rcases hrow with rfl | hrow
  · obtain ⟨zero, -, hzero, hpayout⟩ :=
      Installment.disbursement_eq_ok run.principal_held.finite run.payout_eq
    rw [hpayout]
    exact hzero.ge
  · have hnonneg := hdue row hrow
    rw [Currency.units, Currency.units, ← add_mul] at hnonneg
    rw [run.full_balanced.total_eq row hmem]
    exact nonneg_of_mul_nonneg_left hnonneg (by positivity)

/-- There is a loan, with a principal large beside the number of its installments, on which the last
installment takes back interest. -/
def TakesBackInterest (mode : Rounding) : Prop :=
  ∃ (engine : Engine) (terms : LoanTerms) (dueDates : List Date) (perYear : Decimal)
    (s : Schedule), engine.rounding = some mode ∧
    (engine.compute terms dueDates perYear).outcome = .ok s ∧
    terms.repayments * (terms.repayments - 1) ≤ terms.currency.units terms.principal.amount ∧
    ∃ row ∈ s.rows, row.interestDue.toRat < 0

def dollar : LoanTerms :=
  { pennies with principal := .ofMinor longLoan.currency false 100, annualRate := .ofNat 3 }

theorem exists_schedule_dollar (hmode : mode.isNearest) : ∃ s,
    (({ rounding := some mode } : Engine).compute dollar penniesDates (.ofNat 1)).outcome = .ok s ∧
      s.totalInterest = .finite false 3 (-2) ∧
      ∃ row ∈ s.rows, row.interestDue = .finite true 1 (-2) := by
  have hamounts : ∀ mode : Rounding, mode.isNearest →
      (({ rounding := some mode } : Engine).compute dollar penniesDates
        (.ofNat 1)).outcome.toOption.map (fun s =>
          (s.totalInterest, s.rows.getLast?.map (·.interestDue))) =
        some (.finite false 3 (-2), some (.finite true 1 (-2))) := by
    intro mode
    cases mode <;> decide +kernel
  have h := hamounts mode hmode
  cases houtcome : (({ rounding := some mode } : Engine).compute dollar penniesDates
      (.ofNat 1)).outcome with
  | error r =>
    rw [houtcome] at h
    cases h
  | ok s =>
    rw [houtcome] at h
    simp only [Except.toOption, Option.map_some, Option.some.injEq, Prod.mk.injEq,
      Option.map_eq_some_iff] at h
    obtain ⟨htotal, row, hrow, hdue⟩ := h
    exact ⟨s, rfl, htotal, row, List.mem_of_getLast? hrow, hdue⟩

theorem units_dollar : dollar.currency.units dollar.principal.amount = (100 : ℤ) :=
  Money.Counts.units (m := dollar.principal) ⟨⟨rfl, rfl⟩, rfl⟩

theorem takesBackInterest (hmode : mode.isNearest) : TakesBackInterest mode := by
  obtain ⟨s, houtcome, -, row, hrow, hdue⟩ := exists_schedule_dollar hmode
  refine ⟨_, _, _, _, s, rfl, houtcome, ?_, row, hrow, ?_⟩
  · rw [units_dollar]
    change ((5 : ℤ) : ℚ) * ((5 : ℤ) - 1) ≤ (100 : ℤ)
    norm_num
  · rw [hdue, Decimal.toRat_finite]
    norm_num [Decimal.signed]

/-- Every schedule for a principal and interest below `10 ^ 49` of the smallest units has the closed
form, and with half rounding the interest of its last row may be negative though no total is. No
list of due dates is as long as the number of repayments is allowed to be. -/
theorem compute_closedForm (hmode : engine.rounding = some mode)
    (h : (engine.compute terms dueDates perYear).outcome = .ok s)
    (hprincipal : terms.currency.units terms.principal.amount < 10 ^ 49)
    (htotal : terms.currency.units s.totalInterest < 10 ^ 49)
    (hn : terms.repayments < 10 ^ 49) :
    s.ClosedForm mode terms.principal.amount terms.repayments ∧
      (mode.isNearest → TakesBackInterest mode) := by
  obtain ⟨run, hs⟩ := exists_run h
  have hlent : terms.principal.Counts terms.currency terms.principal.minor :=
    ⟨run.principal_held, rfl⟩
  have hinterest : run.shares.totalInterest.Counts terms.currency _ :=
    ⟨run.totalInterest_held, rfl⟩
  obtain ⟨hcurrency, htotal_eq⟩ : s.currency = terms.currency ∧
      s.totalInterest = run.shares.totalInterest.amount := by
    obtain ⟨_, -, rfl⟩ := schedule_eq_ok hs
    exact ⟨rfl, rfl⟩
  rw [hlent.units] at hprincipal
  rw [htotal_eq, hinterest.units] at htotal
  have hshares := shares_counts run.admits hmode run.shares_eq (by exact_mod_cast hprincipal)
    (by exact_mod_cast htotal) hn
  have hpos : 0 < terms.repayments := run.admits.repayments_pos
  have hlent_nonneg := run.admits.principal_minor_nonneg
  have htotal_nonneg := totalInterest_nonneg run.admits run.shares_eq
  refine ⟨⟨?_, ?_⟩, takesBackInterest⟩
  · obtain ⟨even, last, hrows, hlength, heven, hlast, hlast'⟩ := run.exists_rows hs hshares
    rw [hcurrency, htotal_eq, hlent.units, hinterest.units]
    refine ⟨even, last, hrows, hlength, heven, ?_, ?_⟩
    · rw [hlast]
      exact lastShare_of_rounded mode hpos _
    · rw [hlast']
      exact lastShare_of_rounded mode hpos _
  · rw [hcurrency, hlent.units]
    intro hnearest hlarge
    exact run.totalDue_nonneg hs hshares (mode.toInt_share_nonneg hlent_nonneg hpos)
      (mode.toInt_share_nonneg htotal_nonneg hpos)
      (lastShares_nonneg hnearest hpos htotal_nonneg (by exact_mod_cast hlarge))

theorem compute_closedForm_dollar : ∃ s,
    (({} : Engine).compute dollar penniesDates (.ofNat 1)).outcome = .ok s ∧
      s.ClosedForm .halfEven dollar.principal.amount 5 := by
  have hnearest : Rounding.halfEven.isNearest := rfl
  obtain ⟨s, houtcome, htotal, -⟩ := exists_schedule_dollar hnearest
  refine ⟨s, houtcome, (compute_closedForm rfl houtcome ?_ ?_ (by decide)).1⟩
  · rw [units_dollar]
    norm_num
  · rw [htotal, Currency.units, Decimal.toRat_finite]
    change ((3 : ℤ) : ℚ) * 10 ^ (-2 : ℤ) * 10 ^ 2 < 10 ^ 49
    norm_num

end Engine
end AddOnLoan
