import AddOnLoan.Proofs.CommandLine.Refusals

namespace AddOnLoan
namespace TermOptions

open Entry

variable {t : Text} {x : Decimal} {factor : Nat}

/-- An amount is the number that is written, times what its letter stands for, and any other text is
turned down as no amount. -/
structure ReadsExactly (t : Text) : Prop where
  exact : ∀ factor x, Written t.chars factor x →
    ∃ y, amount (.text t) = .ok y ∧ y.isFinite ∧ y.toRat = x.toRat * factor
  refused : (∀ factor x, ¬Written t.chars factor x) →
    ∃ shown, amount (.text t) = .error (.badValue [] (.amount shown))

/-- Numbers with room for all of their digits where amounts are multiplied, and in range. -/
def Fits (x : ℚ) : Prop := amountContext.Holds x ∧ |x| < 10 ^ (Context.emax + 1)

theorem amount_of_product (hx : x.isFinite)
    (h : Entry.amount t = (amountContext.mul x (.ofNat factor)).mapError .signal) :
    (amountContext.Overflows (x.toRat * factor) →
      amount (.text t) = .error (.unexpected (.signal .overflow))) ∧
    (¬amountContext.Overflows (x.toRat * factor) → ∃ y, amount (.text t) = .ok y ∧ y.isFinite ∧
      y.toRat = amountContext.rounded (x.toRat * factor)) := by
  constructor
  · intro hlarge
    rw [(mul_factor_eq_error_iff hx).2 ⟨rfl, hlarge⟩] at h
    exact amount_eq_error_iff.2 (.inr ⟨_, h, rfl⟩)
  · intro hsmall
    cases hy : amountContext.mul x (.ofNat factor) with
    | error signal => exact absurd ((mul_factor_eq_error_iff hx).1 hy).2 hsmall
    | ok y =>
      rw [hy] at h
      refine ⟨y, amount_eq_ok_iff.2 h, (Entry.amount_yields t).result h, ?_⟩
      obtain ⟨s, c, e, rfl⟩ := Decimal.eq_finite hx
      rw [Decimal.ofNat] at hy
      rw [Context.mul_toRat (by decide) hy, toRat_factor]

/-- Every amount is read as it is written exactly if the products of those with a letter fit. The
others are rounded or have no message, and what is no amount is always turned down. -/
theorem readsExactly_iff (t : Text) :
    (ReadsExactly t ↔
      ∀ factor x, Written t.chars factor x → factor = 1 ∨ Fits (x.toRat * factor)) ∧
    (∀ factor x, Written t.chars factor x → factor ≠ 1 →
      (amountContext.Overflows (x.toRat * factor) →
        amount (.text t) = .error (.unexpected (.signal .overflow))) ∧
      (¬amountContext.Overflows (x.toRat * factor) → ∃ y, amount (.text t) = .ok y ∧ y.isFinite ∧
        y.toRat = amountContext.rounded (x.toRat * factor))) ∧
    ((∀ factor x, ¬Written t.chars factor x) →
      ∃ shown, amount (.text t) = .error (.badValue [] (.amount shown))) := by
  have hp : 0 < amountContext.precision := by decide
  have hproduct (factor : Nat) (x : Decimal) (h : Written t.chars factor x) (hfactor : factor ≠ 1) :=
    amount_of_product h.isFinite ((amount_of_written h).trans (if_neg hfactor))
  have hrefused (h : ∀ factor x, ¬Written t.chars factor x) :
      ∃ shown, amount (.text t) = .error (.badValue [] (.amount shown)) := by
    obtain ⟨shown, hshown⟩ := amount_of_not_written h
    exact ⟨shown, amount_eq_error_iff.2 (.inl ⟨shown, hshown, rfl⟩)⟩
  refine ⟨⟨fun hexact factor x h => ?_, fun hfits => ⟨fun factor x h => ?_, hrefused⟩⟩, hproduct,
    hrefused⟩
  · refine or_iff_not_imp_left.2 fun hfactor => (Context.kept_iff hp).1 ?_
    obtain ⟨y, hy, -, hvalue⟩ := hexact.exact factor x h
    have hsmall : ¬amountContext.Overflows (x.toRat * factor) := fun hlarge => by
      cases hy.symm.trans ((hproduct factor x h hfactor).1 hlarge)
    obtain ⟨y', hy', -, hvalue'⟩ := (hproduct factor x h hfactor).2 hsmall
    cases hy.symm.trans hy'
    exact ⟨hsmall, hvalue'.symm.trans hvalue⟩
  · rcases eq_or_ne factor 1 with rfl | hfactor
    · refine ⟨x, amount_eq_ok_iff.2 (amount_of_written h), h.isFinite, ?_⟩
      rw [Nat.cast_one, mul_one]
    · obtain ⟨hsmall, hkept⟩ := (Context.kept_iff hp).2 ((hfits factor x h).resolve_left hfactor)
      obtain ⟨y, hy, hfinite, hvalue⟩ := (hproduct factor x h hfactor).2 hsmall
      exact ⟨y, hy, hfinite, hvalue.trans hkept⟩

theorem written_thousands :
    Written ("1,250.5 K," : Text).chars 1000 (.finite false 12505 (-1)) := by
  have hchars : ("1,250.5 K," : Text).chars = "1,250.5 ".toList ++ 'K' :: ([','] ++ []) := rfl
  exact .scaled hchars (fun _ hc => List.mem_singleton.1 hc) nofun rfl (by decide +kernel)

theorem readsExactly_thousands : ReadsExactly "1,250.5 K," ∧
    ∃ y, amount (.text "1,250.5 K,") = .ok y ∧ y.isFinite ∧ y.toRat = 1250500 := by
  have hexact : ReadsExactly "1,250.5 K," := by
    refine (readsExactly_iff _).1.2 fun factor x h => .inr ?_
    obtain ⟨rfl, rfl⟩ := h.unique written_thousands
    refine ⟨⟨12505, 2, by decide, by decide, ?_⟩, ?_⟩
    · rw [Decimal.toRat_finite]
      norm_num [Decimal.signed]
    · have hemax : (7 : ℤ) ≤ Context.emax + 1 := by decide
      refine lt_of_lt_of_le ?_ (zpow_le_zpow_right₀ (by norm_num) hemax)
      rw [Decimal.toRat_finite]
      norm_num [Decimal.signed]
  refine ⟨hexact, ?_⟩
  obtain ⟨y, hy, hfinite, hvalue⟩ := hexact.exact _ _ written_thousands
  refine ⟨y, hy, hfinite, hvalue.trans ?_⟩
  rw [Decimal.toRat_finite]
  norm_num [Decimal.signed]

theorem not_readsExactly_longThousands : ¬ReadsExactly "12345678901234567890123456789k" := by
  intro h
  have hwritten : Written ("12345678901234567890123456789k" : Text).chars 1000
      (.finite false 12345678901234567890123456789 0) := by
    have hchars : ("12345678901234567890123456789k" : Text).chars =
        "12345678901234567890123456789".toList ++ 'k' :: ([] ++ []) := rfl
    exact .scaled hchars nofun nofun rfl (by decide +kernel)
  have hread : amount (.text "12345678901234567890123456789k") =
      .ok (.finite false 1234567890123456789012345679 4) := by
    apply amount_eq_ok_iff.2
    decide +kernel
  obtain ⟨y, hy, -, hvalue⟩ := h.exact _ _ hwritten
  cases hread.symm.trans hy
  rw [Decimal.toRat_finite, Decimal.toRat_finite] at hvalue
  norm_num [Decimal.signed] at hvalue

end TermOptions
end AddOnLoan
