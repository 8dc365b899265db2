import AddOnLoan.Calendar.Text
import AddOnLoan.Proofs.Decimal.RoundTrip

namespace AddOnLoan
namespace Date

variable {n width : Nat}

theorem padded_one (h : n < 10) : padded 1 n = [digitChar n] := by
  rw [padded, digits_of_lt h]
  rfl

theorem padded_succ (hwidth : 0 < width) (n : Nat) :
    padded (width + 1) n = padded width (n / 10) ++ [digitChar (n % 10)] := by
  rcases Nat.lt_or_ge n 10 with h | h
  · obtain ⟨width, rfl⟩ := Nat.exists_eq_add_of_lt hwidth
    rw [Nat.div_eq_of_lt h, Nat.mod_eq_of_lt h, padded, padded, digits_of_lt h,
      digits_of_lt (by omega : 0 < 10)]
    simp only [List.length_singleton, Nat.add_sub_cancel, Nat.zero_add]
    rw [List.replicate_succ']
    rfl
  · rw [padded, padded, digits_of_le h, List.length_append, List.length_singleton,
      Nat.add_sub_add_right, List.append_assoc]

theorem padded_two (h : n < 100) : padded 2 n = [digitChar (n / 10), digitChar (n % 10)] := by
  rw [padded_succ one_pos, padded_one (by omega)]
  rfl

theorem padded_four (h : n < 10000) : padded 4 n =
    [digitChar (n / 1000), digitChar (n / 100 % 10), digitChar (n / 10 % 10),
      digitChar (n % 10)] := by
  rw [padded_succ (by omega), padded_succ (by omega), Nat.div_div_eq_div_mul,
    padded_two (by omega), Nat.div_div_eq_div_mul]
  rfl

theorem isNumeral_padded (width n : Nat) : ∀ c ∈ padded width n, isNumeral c := by
  rw [padded, List.forall_mem_append]
  refine ⟨fun c hc => ?_, isNumeral_digits n⟩
  rw [List.eq_of_mem_replicate hc]
  rfl

theorem isNumeral_isoChars (d : Date) : ∀ c ∈ d.isoChars, isNumeral c := by
  simp only [isoChars, List.forall_mem_append, List.forall_mem_cons]
  exact ⟨⟨isNumeral_padded _ _, rfl, isNumeral_padded _ _⟩, rfl, isNumeral_padded _ _⟩

end Date
end AddOnLoan
