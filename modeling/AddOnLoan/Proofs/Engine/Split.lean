import AddOnLoan.Proofs.Engine.Refusals
import AddOnLoan.Proofs.Engine.Run

namespace AddOnLoan

variable {c : Currency} {lent total a b a' b' : ℤ} {k n : ℕ} {x y : Money}
  {terms : LoanTerms}

structure Shares.Counts (c : Currency) (total a b : ℤ) (s : Shares) : Prop where
  totalInterest : s.totalInterest.Counts c total
  principal : s.principal.Counts c a
  interest : s.interest.Counts c b

structure LastShares.Counts (c : Currency) (a b : ℤ) (l : LastShares) : Prop where
  principalDrift : l.principalDrift.HeldIn c
  interestDrift : l.interestDrift.HeldIn c
  principal : l.principal.Counts c a
  interest : l.interest.Counts c b

/-- Amounts so small that no sum on the way to `n` rows with the shares `a` and `b` has more than
fifty digits. -/
structure Modest (lent total a b : ℤ) (n : ℕ) : Prop where
  lent_nonneg : 0 ≤ lent
  lent_lt : lent < 10 ^ 49
  total_nonneg : 0 ≤ total
  total_lt : total < 10 ^ 49
  principal_nonneg : 0 ≤ a
  principal_lt : n * a < 2 * 10 ^ 49
  interest_nonneg : 0 ≤ b
  interest_lt : n * b < 2 * 10 ^ 49

theorem mul_share_le (ha : 0 ≤ a) (hk : k ≤ n) : 0 ≤ k * a ∧ k * a ≤ n * a :=
  ⟨by positivity, mul_le_mul_of_nonneg_right (by exact_mod_cast hk) ha⟩

namespace Progress

variable {p q : Progress} {due : Date} {payout : Installment}

/-- The books of a loan of `lent` after `k` rows with the shares `a` and `b`. -/
structure Even (c : Currency) (lent a b : ℤ) (k : ℕ) (p : Progress) : Prop where
  outstanding : p.outstanding.Counts c (lent - k * a)
  principal : p.principal.Counts c (k * a)
  interest : p.interest.Counts c (k * b)
  repaid : p.repaid.Counts c (k * (a + b))

theorem Even.start (h : terms.principal.Counts terms.currency lent) :
    (start terms payout).Even terms.currency lent a b 0 := by
  have hzero : ∀ z : ℤ, (Money.zero terms.currency).Counts terms.currency ((0 : ℕ) * z) :=
    fun z => by simpa using Money.Counts.zero terms.currency
  exact ⟨by simpa [Progress.start] using h, hzero a, hzero b, hzero (a + b)⟩

theorem Even.collect (hp : p.Even c lent a b k) (hx : x.Counts c a) (hy : y.Counts c b)
    (h : p.collect due x y = .ok q) : q.Even c lent a b (k + 1) := by
  obtain ⟨total, outstanding, principal, interest, repaid, htotal, houtstanding, hprincipal,
    hinterest, hrepaid, rfl⟩ := collect_eq_ok h
  have hnext : ∀ z : ℤ, k * z + z = (k + 1 : ℕ) * z := fun z => by push_cast; ring
  refine ⟨?_, ?_, ?_, ?_⟩
  · rw [← hnext, ← sub_sub]
    exact (hp.outstanding.minus hx houtstanding).1
  · rw [← hnext]
    exact (hp.principal.plus hx hprincipal).1
  · rw [← hnext]
    exact (hp.interest.plus hy hinterest).1
  · rw [← hnext]
    exact (hp.repaid.plus (hx.plus hy htotal).1 hrepaid).1

theorem Even.exists_collect (hp : p.Even c lent a b k) (hx : x.Counts c a') (hy : y.Counts c b')
    (htotal : (a' + b').natAbs < 10 ^ 50) (houtstanding : (lent - k * a - a').natAbs < 10 ^ 50)
    (hprincipal : (k * a + a').natAbs < 10 ^ 50) (hinterest : (k * b + b').natAbs < 10 ^ 50)
    (hrepaid : (k * (a + b) + (a' + b')).natAbs < 10 ^ 50) (due : Date) :
    ∃ q, p.collect due x y = .ok q := by
  obtain ⟨total, htotal, hcounts⟩ := hx.exists_plus hy htotal
  obtain ⟨_, houtstanding, -⟩ := hp.outstanding.exists_minus hx houtstanding
  obtain ⟨_, hprincipal, -⟩ := hp.principal.exists_plus hx hprincipal
  obtain ⟨_, hinterest, -⟩ := hp.interest.exists_plus hy hinterest
  obtain ⟨_, hrepaid, -⟩ := hp.repaid.exists_plus hcounts hrepaid
  exact ⟨_, bind_eq_ok_iff.2 ⟨_, htotal, bind_eq_ok_iff.2 ⟨_, houtstanding, bind_eq_ok_iff.2
    ⟨_, hprincipal, bind_eq_ok_iff.2 ⟨_, hinterest, bind_eq_ok_iff.2 ⟨_, hrepaid, rfl⟩⟩⟩⟩⟩⟩

theorem Even.exists_run (hmodest : Modest lent total a b n) (hx : x.Counts c a)
    (hy : y.Counts c b) (hp : p.Even c lent a b k) {dates : List Date}
    (hn : k + dates.length ≤ n) :
    ∃ q, dates.foldlM (fun p due => p.collect due x y) p = .ok q ∧
      q.Even c lent a b (k + dates.length) := by
  refine exists_foldlM (P := Even c lent a b) (fun j p due hj hp => ?_) hn hp
  have := hmodest.lent_nonneg
  have := hmodest.lent_lt
  have := hmodest.principal_lt
  have := hmodest.interest_lt
  have hone := mul_share_le (k := 1) hmodest.principal_nonneg (by omega : 1 ≤ n)
  have hone' := mul_share_le (k := 1) hmodest.interest_nonneg (by omega : 1 ≤ n)
  have hsofar := mul_share_le (k := j) hmodest.principal_nonneg (by omega : j ≤ n)
  have hsofar' := mul_share_le (k := j) hmodest.interest_nonneg (by omega : j ≤ n)
  obtain ⟨q, hq⟩ := hp.exists_collect hx hy (by omega) (by omega) (by omega) (by omega)
    (by rw [mul_add]; omega) due
  exact ⟨q, hq, hp.collect hx hy hq⟩

def Repeats (payout : Installment) (x y : Decimal) (k : ℕ) (p : Progress) : Prop :=
  ∃ even, p.rows = even ++ [payout] ∧ even.length = k ∧
    ∀ row ∈ even, row.principalDue = x ∧ row.interestDue = y

theorem Repeats.start : (start terms payout).Repeats payout x.amount y.amount 0 :=
  ⟨[], rfl, rfl, fun _ h => nomatch h⟩

theorem Repeats.collect (hp : p.Repeats payout x.amount y.amount k)
    (h : p.collect due x y = .ok q) : q.Repeats payout x.amount y.amount (k + 1) := by
  obtain ⟨total, outstanding, principal, interest, repaid, -, -, -, -, -, rfl⟩ := collect_eq_ok h
  obtain ⟨even, heven, hlength, hrows⟩ := hp
  refine ⟨_ :: even, by rw [heven]; rfl, by rw [List.length_cons, hlength], ?_⟩
  rw [List.forall_mem_cons]
  exact ⟨⟨rfl, rfl⟩, hrows⟩

end Progress

namespace Engine

variable {engine : Engine} {dueDates : List Date} {perYear : Decimal} {s : Shares}
  {p : Progress} {l : LastShares}

theorem lastShares_counts (hlent : terms.principal.Counts c lent) (hs : s.Counts c total a b)
    (hp : p.Even c lent a b k) (h : lastShares terms s p = .ok l) :
    l.Counts c (lent - k * a) (total - k * b) ∧ (k * a + a).natAbs < 10 ^ 50 := by
  obtain ⟨⟨sum, hsum, hdrift⟩, ⟨sum', hsum', hdrift'⟩, hprincipal, hinterest⟩ := lastShares_eq_ok h
  obtain ⟨hsum, hfits⟩ := hp.principal.plus hs.principal hsum
  have hsum' := (hp.interest.plus hs.interest hsum').1
  have hdrift := (hsum.minus hlent hdrift).1
  have hdrift' := (hsum'.minus hs.totalInterest hdrift').1
  refine ⟨⟨hdrift.held, hdrift'.held, ?_, ?_⟩, hfits⟩
  · rw [show lent - k * a = a - (k * a + a - lent) by ring]
    exact (hs.principal.minus hdrift hprincipal).1
  · rw [show total - k * b = b - (k * b + b - total) by ring]
    exact (hs.interest.minus hdrift' hinterest).1

theorem exists_lastShares (hlent : terms.principal.Counts c lent) (hs : s.Counts c total a b)
    (hp : p.Even c lent a b k) (hmodest : Modest lent total a b (k + 1)) :
    ∃ l, lastShares terms s p = .ok l := by
  have := hmodest.lent_nonneg
  have := hmodest.lent_lt
  have := hmodest.total_nonneg
  have := hmodest.total_lt
  have := hmodest.principal_lt
  have := hmodest.interest_lt
  have hone := mul_share_le (n := k + 1) hmodest.principal_nonneg (by omega : 1 ≤ k + 1)
  have hone' := mul_share_le (n := k + 1) hmodest.interest_nonneg (by omega : 1 ≤ k + 1)
  have hsofar := mul_share_le (n := k + 1) hmodest.principal_nonneg (Nat.le_add_right k 1)
  have hsofar' := mul_share_le (n := k + 1) hmodest.interest_nonneg (Nat.le_add_right k 1)
  have hnext : ∀ z : ℤ, (k + 1 : ℕ) * z = k * z + z := fun z => by push_cast; ring
  rw [hnext] at *
  obtain ⟨_, hsum, hcounts⟩ := hp.principal.exists_plus hs.principal (by omega)
  obtain ⟨_, hdrift, hcounts⟩ := hcounts.exists_minus hlent (by omega)
  obtain ⟨_, hsum', hcounts'⟩ := hp.interest.exists_plus hs.interest (by omega)
  obtain ⟨_, hdrift', hcounts'⟩ := hcounts'.exists_minus hs.totalInterest (by omega)
  obtain ⟨_, hprincipal, -⟩ := hs.principal.exists_minus hcounts (by omega)
  obtain ⟨_, hinterest, -⟩ := hs.interest.exists_minus hcounts' (by omega)
  exact ⟨_, bind_eq_ok_iff.2 ⟨_, hsum, bind_eq_ok_iff.2 ⟨_, hdrift, bind_eq_ok_iff.2
    ⟨_, hsum', bind_eq_ok_iff.2 ⟨_, hdrift', bind_eq_ok_iff.2 ⟨_, hprincipal, bind_eq_ok_iff.2
    ⟨_, hinterest, rfl⟩⟩⟩⟩⟩⟩⟩

theorem collectLast_outcome (hl : lastShares terms s p = .ok l) (hcounts : l.Counts c a b)
    (hfit : fitsNumeral terms.repayments = true) (due : Date) :
    (collectLast terms s p due).outcome =
      if a < 0 then .error (.terms (.tooSmallToSplit terms.principal terms.repayments))
      else (p.collect due l.principal l.interest).mapError .money := by
  have hdrift :=
    reportDrift_outcome hcounts.principalDrift.finite hcounts.interestDrift.finite
  have hnegative := Money.isNegative_eq hcounts.principal.held.finite
  rw [hcounts.principal.minor] at hnegative
  have hrequire := Traced.outcome_require_of_isWritable (!decide (a < 0))
    (e := .tooSmallToSplit terms.principal terms.repayments) hfit
  simp only [collectLast, Traced.outcome_bind, Traced.outcome_liftM_signal,
    Traced.outcome_liftM_money, hl, hdrift, hnegative, hrequire, mapError_ok, ok_bind]
  by_cases h : a < 0
  · rw [decide_eq_true h, if_pos h]
    rfl
  · rw [decide_eq_false h, if_neg h]
    rfl

theorem compute_outcome (hadmits : Admits terms dueDates perYear)
    (hshares : engine.shares terms perYear = .ok s) :
    ∃ payout first last, dueDates = first ++ [last] ∧
      (engine.compute terms dueDates perYear).outcome =
        (first.foldlM (fun (p : Progress) due => p.collect due s.principal s.interest)
          (Progress.start terms payout)).mapError .money >>= fun even =>
        (collectLast terms s even last).outcome >>= fun full =>
        (schedule terms s full).mapError .money := by
  obtain ⟨payout, hpayout⟩ :=
    Installment.exists_disbursement terms.disbursed hadmits.principal_held.finite
  have hne : dueDates ≠ [] := by
    rintro rfl
    have := hadmits.count
    have := hadmits.repayments_pos
    simp only [List.length_nil] at *
    omega
  refine ⟨payout, dueDates.dropLast, dueDates.getLast hne,
    (List.dropLast_append_getLast hne).symm, ?_⟩
  simp only [compute, Traced.outcome_bind, Traced.outcome_liftM, Traced.outcome_liftM_signal,
    Traced.outcome_liftM_money, Traced.outcome_report]
  simp only [check_eq_ok_iff.2 hadmits, hshares, hpayout, List.getLast?_eq_some_getLast hne,
    mapError_ok, ok_bind, Traced.outcome_bind, Traced.outcome_liftM_money]

/-- With the last row the totals come to the principal and the interest of the term, so where the
balance is not negative there is nothing left to refuse. -/
theorem exists_finished (hlent : terms.principal.Counts c lent) (hp : p.Even c lent a b k)
    (hlast : l.Counts c (lent - k * a) (total - k * b))
    (hmodest : Modest lent total a b (k + 1)) (hle : k * a ≤ lent) (due : Date) :
    ∃ full finished, p.collect due l.principal l.interest = .ok full ∧
      schedule terms s full = .ok finished := by
  have := hmodest.lent_lt
  have := hmodest.total_nonneg
  have := hmodest.total_lt
  have := hmodest.principal_lt
  have := hmodest.interest_lt
  have hsofar := mul_share_le (n := k + 1) hmodest.principal_nonneg (Nat.le_add_right k 1)
  have hsofar' := mul_share_le (n := k + 1) hmodest.interest_nonneg (Nat.le_add_right k 1)
  obtain ⟨full, hfull⟩ := hp.exists_collect hlast.principal hlast.interest (by omega)
    (by omega) (by omega) (by omega) (by rw [mul_add]; omega) due
  obtain ⟨_, _, principal, _, _, -, -, hprincipal, -, -, hfull'⟩ := Progress.collect_eq_ok hfull
  have hprincipal := (hp.principal.plus hlast.principal hprincipal).1
  obtain ⟨rest, hrest, -⟩ := hlent.exists_minus hprincipal (by omega)
  exact ⟨full, _, hfull, bind_eq_ok_iff.2 ⟨rest, by rw [hfull']; exact hrest, rfl⟩⟩

theorem compute_of_modest (hadmits : Admits terms dueDates perYear)
    (hshares : engine.shares terms perYear = .ok s)
    (hlent : terms.principal.Counts terms.currency lent)
    (hs : s.Counts terms.currency total a b)
    (hmodest : Modest lent total a b dueDates.length) :
    (lent < (dueDates.length - 1) * a → (engine.compute terms dueDates perYear).outcome =
        .error (.terms (.tooSmallToSplit terms.principal terms.repayments))) ∧
      ((dueDates.length - 1) * a ≤ lent →
        ∃ schedule, (engine.compute terms dueDates perYear).outcome = .ok schedule) := by
  obtain ⟨payout, first, last, rfl, houtcome⟩ := compute_outcome hadmits hshares
  rw [List.length_append, List.length_singleton] at hmodest ⊢
  have hfirst : 0 + first.length ≤ first.length + 1 := by omega
  obtain ⟨even, heven, hcounts⟩ := Progress.Even.exists_run hmodest hs.principal hs.interest
    (.start hlent) hfirst
  rw [zero_add] at hcounts
  obtain ⟨l, hl⟩ := exists_lastShares hlent hs hcounts hmodest
  have hlast := (lastShares_counts hlent hs hcounts hl).1
  rw [heven] at houtcome
  change _ = (collectLast terms s even last).outcome >>= _ at houtcome
  rw [collectLast_outcome hl hlast hadmits.repayments_fit last] at houtcome
  rw [Nat.cast_add, Nat.cast_one, add_sub_cancel_right]
  constructor
  · intro hover
    rw [houtcome, if_pos (by omega)]
    rfl
  · intro hle
    obtain ⟨full, finished, hfull, hfinished⟩ :=
      exists_finished (s := s) hlent hcounts hlast hmodest hle last
    rw [if_neg (by omega), hfull] at houtcome
    exact ⟨finished, houtcome.trans (mapError_eq_ok_iff.2 hfinished)⟩

/-- Whatever the amounts, once the checks are passed terms are turned down only if the even shares
of all rows but the last come to more than the principal; all even shares then have been summed. -/
theorem overdrawn_of_turned_down (hadmits : Admits terms dueDates perYear)
    (hshares : engine.shares terms perYear = .ok s)
    (hlent : terms.principal.Counts terms.currency lent)
    (hs : s.Counts terms.currency total a b) {e : TermsError}
    (h : (engine.compute terms dueDates perYear).outcome = .error (.terms e)) :
    lent < (dueDates.length - 1) * a ∧ (dueDates.length * a).natAbs < 10 ^ 50 := by
  obtain ⟨payout, first, last, rfl, houtcome⟩ := compute_outcome hadmits hshares
  -- refused sums are refused for the amount, not for the terms
  have hmoney : ∀ {α : Type} {x : Except MoneyError α},
      x.mapError Refusal.money ≠ .error (.terms e) := by
    intro α x hx
    obtain ⟨_, -, he⟩ := mapError_eq_error_iff.1 hx
    cases he
  rcases bind_eq_error_iff.1 (houtcome.symm.trans h) with h | ⟨even, heven, h⟩
  · exact absurd h hmoney
  have hcounts := counted_of_foldlM (P := Progress.Even terms.currency lent a b)
    (fun k p due q hp hq => hp.collect hs.principal hs.interest hq) (mapError_eq_ok_iff.1 heven)
    (.start hlent)
  rw [zero_add] at hcounts
  rcases bind_eq_error_iff.1 h with h | ⟨full, -, h⟩
  · cases hl : lastShares terms s even with
    | error e' =>
      simp only [collectLast, Traced.outcome_bind, Traced.outcome_liftM_money, hl] at h
      cases h
    | ok l =>
      obtain ⟨hlast, hfits⟩ := lastShares_counts hlent hs hcounts hl
      rw [collectLast_outcome hl hlast hadmits.repayments_fit last] at h
      split at h
      · rw [List.length_append, List.length_singleton, Nat.cast_add, Nat.cast_one,
          add_sub_cancel_right, add_one_mul]
        exact ⟨by omega, hfits⟩
      · exact absurd h hmoney
  · exact absurd h hmoney

end Engine
end AddOnLoan
