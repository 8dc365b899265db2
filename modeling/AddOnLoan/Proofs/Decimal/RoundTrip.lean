import AddOnLoan.Proofs.Decimal.Notation
import AddOnLoan.Proofs.Decimal.Reading

namespace AddOnLoan

variable {cs ds rest : List Char}

theorem digitsValue_append_singleton (ds : List Nat) (d : Nat) :
    digitsValue (ds ++ [d]) = 10 * digitsValue ds + d := by
  rw [digitsValue_eq, digitsValue_eq, List.foldl_append]
  rfl

theorem digitsValue_zeros (zeros : Nat) (ds : List Nat) :
    digitsValue (List.replicate zeros 0 ++ ds) = digitsValue ds := by
  rw [digitsValue_eq, digitsValue_eq]
  induction zeros with
  | zero => rfl
  | succ zeros ih =>
    rw [List.replicate_succ, List.cons_append]
    exact ih

theorem asciiDigit?_digitChar {d : Nat} (h : d < 10) : asciiDigit? (digitChar d) = some d := by
  interval_cases d <;> rfl

theorem digitsValue_digits (n : Nat) : digitsValue ((digits n).filterMap asciiDigit?) = n := by
  induction n using Nat.strongRecOn with
  | ind n ih =>
    by_cases h : n < 10
    · rw [digits_of_lt h, List.filterMap_cons_some (asciiDigit?_digitChar h), digitsValue_eq]
      exact Nat.zero_add n
    · rw [digits_of_le (by omega), List.filterMap_append, List.filterMap_cons_some
        (asciiDigit?_digitChar (by omega)), List.filterMap_nil, digitsValue_append_singleton,
        ih (n / 10) (by omega)]
      omega

theorem length_digitValues (h : ∀ c ∈ ds, c.isDigit) :
    (ds.filterMap asciiDigit?).length = ds.length :=
  List.filterMap_length_eq_length.2 fun c hc => by rw [asciiDigit?, if_pos (h c hc)]; rfl

theorem mapM_eq_self {f : α → Option α} {l : List α} (h : ∀ a ∈ l, f a = some a) :
    l.mapM f = some l := by
  induction l with
  | nil => rfl
  | cons a l ih =>
    rw [List.forall_mem_cons] at h
    rw [List.mapM_cons, h.1, ih h.2]
    rfl

theorem takeWhile_append_of_head {p : α → Bool} {l rest : List α} (hl : ∀ a ∈ l, p a)
    (hrest : ∀ a ∈ rest.head?, p a = false) : (l ++ rest).takeWhile p = l := by
  rw [List.takeWhile_append_of_pos hl]
  cases rest with
  | nil => exact List.append_nil l
  | cons a rest => rw [List.takeWhile_cons, hrest a rfl, if_neg Bool.false_ne_true, List.append_nil]

theorem dropWhile_append_of_head {p : α → Bool} {l rest : List α} (hl : ∀ a ∈ l, p a)
    (hrest : ∀ a ∈ rest.head?, p a = false) : (l ++ rest).dropWhile p = rest := by
  rw [List.dropWhile_append_of_pos hl]
  cases rest with
  | nil => rfl
  | cons a rest => rw [List.dropWhile_cons, hrest a rfl, if_neg Bool.false_ne_true]

theorem stripOf_eq_self {p : α → Bool} {s : List α} (h : ∀ c ∈ s, p c = false) :
    stripOf p s = s := by
  have hdrop : ∀ l : List α, (∀ c ∈ l, p c = false) → l.dropWhile p = l := by
    rintro (_ | ⟨c, l⟩) hl
    · rfl
    · rw [List.dropWhile_cons_of_neg (by rw [hl c List.mem_cons_self]; exact Bool.false_ne_true)]
  rw [stripOf, hdrop s h, dropTrailing, hdrop _ fun c hc => h c (List.mem_reverse.1 hc),
    List.reverse_reverse]

theorem isNumeral_code {c : Char} (h : isNumeral c) : 43 ≤ c.toNat ∧ c.toNat ≤ 69 := by
  simp only [isNumeral, Char.isDigit, Bool.or_eq_true, Bool.and_eq_true, decide_eq_true_eq,
    beq_iff_eq, UInt32.le_iff_toNat_le] at h
  change ((((48 ≤ c.toNat ∧ c.toNat ≤ 57) ∨ _) ∨ _) ∨ _) ∨ _ at h
  rcases h with (((h | rfl) | rfl) | rfl) | rfl
  · omega
  all_goals decide

theorem strip_numerals (h : ∀ c ∈ cs, isNumeral c) : strip cs = cs := by
  refine stripOf_eq_self fun c hc => ?_
  have hcode := isNumeral_code (h c hc)
  simp only [isBlank, Bool.or_eq_false_iff, Bool.and_eq_false_iff, decide_eq_false_iff_not,
    beq_eq_false_iff_ne]
  omega

namespace Decimal

variable {whole fraction after : List Char} {power : Int} {s : Bool}

theorem spanDigits_append (hds : ∀ c ∈ ds, c.isDigit)
    (hrest : ∀ c ∈ rest.head?, c.isDigit = false) :
    spanDigits (ds ++ rest) = (ds.filterMap asciiDigit?, rest) := by
  rw [spanDigits, takeWhile_append_of_head hds hrest, dropWhile_append_of_head hds hrest]

theorem spanDigits_digits (n : Nat) :
    spanDigits (digits n) = ((digits n).filterMap asciiDigit?, []) := by
  have h := spanDigits_append (isDigit_digits n)
    (show ∀ c ∈ ([] : List Char).head?, c.isDigit = false from nofun)
  rwa [List.append_nil] at h

theorem digits_ne_nil (n : Nat) : digits n ≠ [] := by
  rw [← List.length_pos_iff, length_digits]
  exact digitCount_pos n

theorem values_ne_nil (h : ∀ c ∈ ds, c.isDigit) (hne : ds ≠ []) :
    ds.filterMap asciiDigit? ≠ [] := by
  rw [← List.length_pos_iff, length_digitValues h, List.length_pos_iff]
  exact hne

theorem pointDigits_of_ne (h : ∀ c ∈ cs.head?, c ≠ '.') : pointDigits cs = ([], cs) := by
  unfold pointDigits
  split
  · exact absurd rfl (h '.' rfl)
  · rfl

def mantissa (whole fraction : List Char) : List Char :=
  whole ++ if fraction = [] then [] else '.' :: fraction

/-- A number is read from its digits before and behind the point, and from its power. -/
theorem readNumber?_mantissa (hwhole : ∀ c ∈ whole, c.isDigit) (hne : whole ≠ [])
    (hfraction : ∀ c ∈ fraction, c.isDigit) (hpower : readPower? after = some power)
    (hafter : ∀ c ∈ after.head?, c.isDigit = false ∧ c ≠ '.') :
    readNumber? s (mantissa whole fraction ++ after) =
      some (.finite s (digitsValue ((whole ++ fraction).filterMap asciiDigit?))
        (power - fraction.length)) := by
  obtain ⟨tail, htail⟩ : ∃ tail, (if fraction = [] then [] else '.' :: fraction) ++ after = tail :=
    ⟨_, rfl⟩
  have hhead : ∀ c ∈ tail.head?, c.isDigit = false := by
    subst htail
    split
    · exact fun c hc => (hafter c hc).1
    · rintro c hc
      cases hc
      rfl
  have hpoint : pointDigits tail = (fraction.filterMap asciiDigit?, after) := by
    rw [← htail]
    by_cases hempty : fraction = []
    · rw [if_pos hempty, hempty]
      exact pointDigits_of_ne fun c hc => (hafter c hc).2
    · rw [if_neg hempty]
      exact spanDigits_append hfraction fun c hc => (hafter c hc).1
  rw [mantissa, List.append_assoc, htail, readNumber?_eq, spanDigits_append hwhole hhead, hpoint,
    if_neg fun h => values_ne_nil hwhole hne h.1, hpower, length_digitValues hfraction,
    List.filterMap_append]
  rfl

theorem readPower?_scientific (n : Int) :
    readPower? ('E' :: (if n < 0 then '-' else '+') :: digits n.natAbs) = some n := by
  have hsign : readSign ((if n < 0 then '-' else '+') :: digits n.natAbs) =
      (decide (n < 0), digits n.natAbs) := by
    split
    · next h => rw [readSign, decide_eq_true h]
    · next h => rw [readSign, decide_eq_false h]
  rw [readPower?_cons, hsign, spanDigits_digits, if_pos
    ⟨rfl, values_ne_nil (isDigit_digits _) (digits_ne_nil _), rfl⟩, digitsValue_digits,
    signed_natAbs fun _ => rfl]

/-- In every notation the digits are those of the coefficient with zeros in front, and the exponent
is the power less the digits behind the point. -/
theorem exists_mantissa (c : Nat) (e : Int) : ∃ whole fraction after power zeros,
    finiteText c e = mantissa whole fraction ++ after ∧ whole ≠ [] ∧
      whole ++ fraction = List.replicate zeros '0' ++ digits c ∧
      readPower? after = some power ∧ (∀ c ∈ after.head?, c.isDigit = false ∧ c ≠ '.') ∧
      e = power - fraction.length := by
  have hpos := digitCount_pos c
  have hlength := length_digits c
  simp only [finiteText]
  obtain ⟨adjusted, hadjusted⟩ : ∃ adjusted, e + ((digits c).length - 1 : Int) = adjusted :=
    ⟨_, rfl⟩
  rw [hadjusted]
  split
  · refine ⟨(digits c).take 1, (digits c).drop 1,
      'E' :: (if adjusted < 0 then '-' else '+') :: digits adjusted.natAbs, adjusted, 0, ?_, ?_,
      List.take_append_drop 1 _, readPower?_scientific adjusted, ?_, ?_⟩
    · have hdrop : (digits c).drop 1 = [] ↔ (digits c).length ≤ 1 := List.drop_eq_nil_iff
      simp only [scientific, mantissa, hdrop]
    · rw [ne_eq, List.take_eq_nil_iff]
      simp [digits_ne_nil]
    · rintro _ ⟨⟩
      decide
    · rw [List.length_drop]
      omega
  · split
    · next hzero =>
      exact ⟨digits c, [], [], 0, 0, by simp [mantissa], digits_ne_nil c, by simp, rfl, by simp,
        by simp [hzero]⟩
    · next hnegative hzero =>
      obtain ⟨whole, fraction, hpointed, hwhole, hplaces, zeros, hfilled⟩ :=
        exists_pointed (digits c) e.natAbs
      have hfraction : fraction ≠ [] := by
        rw [← List.length_pos_iff]
        omega
      refine ⟨whole, fraction, [], 0, zeros, ?_, hwhole, hfilled, rfl, by simp, by omega⟩
      rw [hpointed, mantissa, if_neg hfraction, List.append_nil]

theorem readNumber?_finiteText (s : Bool) (c : Nat) (e : Int) :
    readNumber? s (finiteText c e) = some (.finite s c e) := by
  obtain ⟨whole, fraction, after, power, zeros, htext, hne, hfilled, hpower, hafter, rfl⟩ :=
    exists_mantissa c e
  have hdigits : ∀ d ∈ whole ++ fraction, d.isDigit := by
    rw [hfilled]
    exact isDigit_filled
  rw [List.forall_mem_append] at hdigits
  have hvalue : digitsValue ((whole ++ fraction).filterMap asciiDigit?) = c := by
    rw [hfilled, List.filterMap_append, List.filterMap_replicate_of_some
      (show asciiDigit? '0' = some 0 from rfl), digitsValue_zeros, digitsValue_digits]
  rw [htext, readNumber?_mantissa hdigits.1 hne hdigits.2 hpower hafter, hvalue]

theorem isDigit_head?_finiteText (c : Nat) (e : Int) :
    ∀ d ∈ (finiteText c e).head?, d.isDigit := by
  obtain ⟨whole, fraction, after, power, zeros, htext, hne, hfilled, -⟩ := exists_mantissa c e
  obtain ⟨first, whole, rfl⟩ := List.exists_cons_of_ne_nil hne
  have hfirst : first ∈ List.replicate zeros '0' ++ digits c := by
    rw [← hfilled]
    simp
  rw [htext]
  rintro _ ⟨⟩
  exact isDigit_filled first hfirst

theorem readSign_append (s : Bool) (h : ∀ c ∈ cs.head?, c.isDigit) :
    readSign ((if s then ['-'] else []) ++ cs) = (s, cs) := by
  cases s with
  | true => rfl
  | false =>
    rw [if_neg Bool.false_ne_true, List.nil_append]
    unfold readSign
    split
    · exact absurd (h '-' rfl) (by decide)
    · exact absurd (h '+' rfl) (by decide)
    · rfl

theorem normalized?_numerals (h : ∀ c ∈ cs, isNumeral c) : normalized? cs = some cs := by
  have hline : ∀ c ∈ cs, (c != '_') = true := by
    intro c hc
    have := isNumeral_code (h c hc)
    rw [bne_iff_ne]
    rintro rfl
    revert this
    decide
  rw [normalized?, strip_numerals h, List.filter_eq_self.2 hline]
  refine mapM_eq_self fun c hc => ?_
  have := isNumeral_code (h c hc)
  rw [if_pos (by omega)]

theorem read?_text {x : Decimal} (hx : x.isFinite) (hreadable : x.readable) :
    read? x.text.toList = some x := by
  have hnormalized := normalized?_numerals (isNumeral_text hx)
  obtain ⟨s, c, e, rfl⟩ := eq_finite hx
  rw [read?, hnormalized]
  change (do
    let x ← (readNumber? (readSign _).1 (readSign _).2).or (readWord? _ _)
    if readable x then some x else none) = _
  rw [text_finite, readSign_append s (isDigit_head?_finiteText c e), readNumber?_finiteText]
  exact if_pos hreadable

end Decimal
end AddOnLoan
