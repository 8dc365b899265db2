import AddOnLoan.Decimal.Reader
import AddOnLoan.Proofs.Text.SmallLetters
import AddOnLoan.Proofs.Text.Stripping

namespace AddOnLoan

theorem plain_of_code {c : Char} (h : ∃ range ∈ caselessRanges,
    range.1 ≤ c.toNat ∧ c.toNat ≤ range.2) : isPlainInNumber c := by
  rw [isPlainInNumber, inRanges_iff.2 h, Bool.true_or]

theorem plain_of_isBlank {c : Char} (h : isBlank c) : isPlainInNumber c := by
  refine plain_of_code ?_
  simp only [isBlank, Bool.or_eq_true, Bool.and_eq_true, decide_eq_true_eq, beq_iff_eq] at h
  simp only [caselessRanges, List.exists_mem_cons_iff]
  omega

theorem plain_of_isDigit {c : Char} (h : c.isDigit) : isPlainInNumber c := by
  refine plain_of_code ⟨(0x9, 0x40), by decide, ?_⟩
  simp only [Char.isDigit, Bool.and_eq_true, decide_eq_true_eq, UInt32.le_iff_toNat_le] at h
  change 48 ≤ c.toNat ∧ c.toNat ≤ 57 at h
  dsimp only
  omega

/-- The digits of every script lie in a range without case. -/
theorem digitZeros_caseless : ∀ z ∈ digitZeros, ∃ range ∈ caselessRanges,
    range.1 ≤ z ∧ z + 9 ≤ range.2 := by
  decide +kernel

theorem plain_of_digitValue {c : Char} {d : Nat} (h : digitValue? c = some d) :
    isPlainInNumber c ∧ d < 10 := by
  obtain ⟨z, hz, rfl⟩ := Option.map_eq_some_iff.1 h
  have hin := List.find?_some hz
  simp only [Bool.and_eq_true, decide_eq_true_eq] at hin
  obtain ⟨range, hrange, hlow, hhigh⟩ :=
    digitZeros_caseless z (List.mem_of_find?_eq_some hz)
  exact ⟨plain_of_code ⟨range, hrange, by omega, by omega⟩, by omega⟩

theorem plain_of_strip {s : List Char} (h : AllPlain (strip s)) : AllPlain s := by
  obtain ⟨a, b, hs, ha, hb⟩ := exists_around isBlank s
  rw [AllPlain, hs]
  simp only [List.forall_mem_append]
  exact ⟨⟨fun c hc => plain_of_isBlank (ha c hc), h⟩, fun c hc => plain_of_isBlank (hb c hc)⟩

theorem plain_of_filter {s : List Char} {out : Char} (hout : isPlainInNumber out)
    (h : AllPlain (s.filter (· != out))) : AllPlain s := by
  intro c hc
  by_cases hcout : c = out
  · rwa [hcout]
  · exact h c (List.mem_filter.2 ⟨hc, bne_iff_ne.2 hcout⟩)

namespace Decimal

variable {s : List Char} {x : Decimal} {negative : Bool}

theorem plain_of_readSign (h : AllPlain (readSign s).2) : AllPlain s := by
  unfold readSign at h
  split at h
  · exact List.forall_mem_cons.2 ⟨by decide, h⟩
  · exact List.forall_mem_cons.2 ⟨by decide, h⟩
  · exact h

theorem plain_of_spanDigits (h : AllPlain (spanDigits s).2) : AllPlain s := by
  rw [← List.takeWhile_append_dropWhile (p := Char.isDigit) (l := s)]
  exact List.forall_mem_append.2 ⟨fun c hc => plain_of_isDigit (List.mem_takeWhile_imp hc), h⟩

def pointDigits (s : List Char) : List Nat × List Char :=
  match s with
  | '.' :: rest => spanDigits rest
  | rest => ([], rest)

theorem plain_of_pointDigits (h : AllPlain (pointDigits s).2) : AllPlain s := by
  unfold pointDigits at h
  split at h
  · exact List.forall_mem_cons.2 ⟨by decide, plain_of_spanDigits h⟩
  · exact h

theorem readPower?_cons (mark : Char) (rest : List Char) :
    readPower? (mark :: rest) =
      if isPowerMark mark ∧ (spanDigits (readSign rest).2).1 ≠ [] ∧
          (spanDigits (readSign rest).2).2 = [] then
        some (signed (readSign rest).1 (digitsValue (spanDigits (readSign rest).2).1))
      else none := by
  unfold readPower?
  simp only [isPowerMark, Bool.or_eq_true, beq_iff_eq]
  by_cases hmark : mark = 'e' ∨ mark = 'E'
  · rw [if_pos hmark]
    generalize spanDigits (readSign rest).2 = span
    obtain ⟨ds, after⟩ := span
    cases ds <;> cases after <;> simp [hmark]
  · rw [if_neg hmark, if_neg fun h => hmark h.1]

theorem readNumber?_eq (negative : Bool) (s : List Char) :
    readNumber? negative s =
      if (spanDigits s).1 = [] ∧ (pointDigits (spanDigits s).2).1 = [] then none
      else (readPower? (pointDigits (spanDigits s).2).2).map fun power =>
        .finite negative (digitsValue ((spanDigits s).1 ++ (pointDigits (spanDigits s).2).1))
          (power - (pointDigits (spanDigits s).2).1.length) := by
  change (if (spanDigits s).1.isEmpty && (pointDigits (spanDigits s).2).1.isEmpty then _ else _) = _
  simp only [Bool.and_eq_true, List.isEmpty_iff]
  split
  · rfl
  · rw [Option.map_eq_bind]
    rfl

theorem plain_of_readPower {n : Int} (h : readPower? s = some n) : AllPlain s := by
  cases s with
  | nil => nofun
  | cons mark rest =>
    rw [readPower?_cons, Option.ite_none_right_eq_some] at h
    obtain ⟨hmark, -, hrest⟩ := h.1
    refine List.forall_mem_cons.2 ⟨?_, plain_of_readSign (plain_of_spanDigits ?_)⟩
    · rw [isPlainInNumber, hmark, Bool.or_true]
    · rw [hrest]
      nofun

theorem plain_of_readNumber (h : readNumber? negative s = some x) : AllPlain s := by
  rw [readNumber?_eq, Option.ite_none_left_eq_some] at h
  obtain ⟨power, hpower, -⟩ := Option.map_eq_some_iff.1 h.2
  exact plain_of_spanDigits (plain_of_pointDigits (plain_of_readPower hpower))

theorem isFinite_of_readWord (h : readWord? negative s = some x) : x.isFinite = false := by
  unfold readWord? at h
  dsimp only at h
  split at h
  · cases h
    rfl
  · split at h
    · split at h
      · cases h
        rfl
      · cases h
    · split at h
      · cases h
        rfl
      · cases h
    · cases h

def asciiForm? (c : Char) : Option Char :=
  if c.toNat < 128 then some c
  else (digitValue? c).map fun d => Char.ofNat ('0'.toNat + d)

theorem plain_of_asciiForm {c c' : Char} (h : asciiForm? c = some c') (hc' : isPlainInNumber c') :
    isPlainInNumber c := by
  unfold asciiForm? at h
  split at h
  · cases h
    exact hc'
  · obtain ⟨d, hd, -⟩ := Option.map_eq_some_iff.1 h
    exact (plain_of_digitValue hd).1

theorem plain_of_asciiForms {t : List Char} (h : s.mapM asciiForm? = some t) (ht : AllPlain t) :
    AllPlain s := by
  induction s generalizing t with
  | nil => nofun
  | cons c s ih =>
    rw [List.mapM_cons] at h
    obtain ⟨c', hc', h⟩ := Option.bind_eq_some_iff.1 h
    obtain ⟨t', ht', h⟩ := Option.bind_eq_some_iff.1 h
    cases h
    obtain ⟨hplain, hplains⟩ := List.forall_mem_cons.1 ht
    exact List.forall_mem_cons.2 ⟨plain_of_asciiForm hc' hplain, ih ht' hplains⟩

theorem plain_of_normalized {t : List Char} (h : normalized? s = some t) (ht : AllPlain t) :
    AllPlain s :=
  plain_of_strip (plain_of_filter (by decide) (plain_of_asciiForms h ht))

theorem plain_of_read (h : read? s = some x) (hx : x.isFinite) : AllPlain s := by
  obtain ⟨t, ht, h⟩ := Option.bind_eq_some_iff.1 h
  obtain ⟨y, hy, h⟩ := Option.bind_eq_some_iff.1 h
  obtain ⟨-, h⟩ := Option.ite_none_right_eq_some.1 h
  cases h
  refine plain_of_normalized ht (plain_of_readSign ?_)
  rcases Option.or_eq_some_iff.1 hy with hnumber | ⟨-, hword⟩
  · exact plain_of_readNumber hnumber
  · rw [isFinite_of_readWord hword] at hx
    cases hx

theorem smallMark_congr {f : Char → β} (h : f 'e' = f 'E') (c : Char) : f (smallMark c) = f c := by
  unfold smallMark
  split
  · next hc => rw [hc, h]
  · rfl

theorem filter_smallMark {keep : Char → Bool} (h : keep 'e' = keep 'E') (s : List Char) :
    (s.map smallMark).filter keep = (s.filter keep).map smallMark := by
  rw [List.filter_map]
  exact congrArg (List.map smallMark) (List.filter_congr fun c _ => smallMark_congr h c)

theorem strip_smallMark (s : List Char) : strip (s.map smallMark) = (strip s).map smallMark :=
  stripOf_map (smallMark_congr (by decide))

theorem asciiForm?_smallMark (c : Char) :
    asciiForm? (smallMark c) = (asciiForm? c).map smallMark := by
  by_cases hc : c = 'E'
  · subst hc
    decide
  rw [smallMark, if_neg hc]
  unfold asciiForm?
  split
  · rw [Option.map_some, smallMark, if_neg hc]
  · cases hd : digitValue? c with
    | none => rfl
    | some d =>
      have hdigit : ∀ d < 10, smallMark (Char.ofNat ('0'.toNat + d)) = Char.ofNat ('0'.toNat + d) :=
        by decide
      rw [Option.map_some, Option.map_some, hdigit d (plain_of_digitValue hd).2]

theorem normalized?_smallMark (s : List Char) :
    normalized? (s.map smallMark) = (normalized? s).map (List.map smallMark) := by
  change ((strip (s.map smallMark)).filter (· != '_')).mapM asciiForm? =
    (((strip s).filter (· != '_')).mapM asciiForm?).map (List.map smallMark)
  rw [strip_smallMark, filter_smallMark (by decide)]
  generalize (strip s).filter (· != '_') = rest
  induction rest with
  | nil => rfl
  | cons c rest ih =>
    rw [List.map_cons, List.mapM_cons, List.mapM_cons, ih, asciiForm?_smallMark]
    cases asciiForm? c with
    | none => rfl
    | some c' => cases rest.mapM asciiForm? <;> rfl

theorem readSign_smallMark (s : List Char) :
    readSign (s.map smallMark) = ((readSign s).1, (readSign s).2.map smallMark) := by
  cases s with
  | nil => rfl
  | cons c rest =>
    by_cases hc : c = 'E'
    · subst hc
      rfl
    · rw [List.map_cons, smallMark, if_neg hc]
      unfold readSign
      split <;> simp_all [smallMark]

theorem spanDigits_smallMark (s : List Char) :
    spanDigits (s.map smallMark) = ((spanDigits s).1, (spanDigits s).2.map smallMark) := by
  have hdigit : Char.isDigit ∘ smallMark = Char.isDigit := funext (smallMark_congr (by decide))
  have hvalue : asciiDigit? ∘ smallMark = asciiDigit? := funext (smallMark_congr (by decide))
  rw [spanDigits, List.takeWhile_map, List.dropWhile_map, List.filterMap_map, hdigit, hvalue,
    spanDigits]

theorem pointDigits_smallMark (s : List Char) :
    pointDigits (s.map smallMark) = ((pointDigits s).1, (pointDigits s).2.map smallMark) := by
  cases s with
  | nil => rfl
  | cons c rest =>
    by_cases hc : c = 'E'
    · subst hc
      rfl
    · rw [List.map_cons, smallMark, if_neg hc]
      unfold pointDigits
      split
      · next hpoint =>
        cases hpoint
        exact spanDigits_smallMark rest
      · simp_all [smallMark]

theorem isPowerMark_smallMark (c : Char) : isPowerMark (smallMark c) = isPowerMark c :=
  smallMark_congr (by decide) c

theorem readPower?_smallMark (s : List Char) : readPower? (s.map smallMark) = readPower? s := by
  cases s with
  | nil => rfl
  | cons mark rest =>
    rw [List.map_cons, readPower?_cons, readPower?_cons, isPowerMark_smallMark,
      readSign_smallMark, spanDigits_smallMark]
    simp only [ne_eq, List.map_eq_nil_iff]

theorem readNumber?_smallMark (negative : Bool) (s : List Char) :
    readNumber? negative (s.map smallMark) = readNumber? negative s := by
  rw [readNumber?_eq, readNumber?_eq, spanDigits_smallMark, pointDigits_smallMark,
    readPower?_smallMark]

theorem readWord?_smallMark (negative : Bool) (s : List Char) :
    readWord? negative (s.map smallMark) = readWord? negative s := by
  have hlower : Char.toLower ∘ smallMark = Char.toLower := funext (smallMark_congr (by decide))
  unfold readWord?
  rw [List.map_map, hlower]

theorem read?_smallMark (s : List Char) : read? (s.map smallMark) = read? s := by
  unfold read?
  rw [normalized?_smallMark]
  cases normalized? s with
  | none => rfl
  | some t =>
    change (do
      let x ← (readNumber? (readSign (t.map smallMark)).1 (readSign (t.map smallMark)).2).or
        (readWord? (readSign (t.map smallMark)).1 (readSign (t.map smallMark)).2)
      if readable x then some x else none) = _
    rw [readSign_smallMark, readNumber?_smallMark, readWord?_smallMark]
    rfl

end Decimal
end AddOnLoan
