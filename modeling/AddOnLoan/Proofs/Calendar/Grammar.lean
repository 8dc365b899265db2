import AddOnLoan.Entry
import AddOnLoan.Proofs.Calendar.Text
import AddOnLoan.Proofs.Text.Stripping

namespace AddOnLoan

variable {c : Char} {i : Nat}

theorem eq_digitChar_of_asciiDigit (h : asciiDigit? c = some i) : i < 10 ∧ c = digitChar i := by
  rw [asciiDigit?, Option.ite_none_right_eq_some] at h
  obtain ⟨hdigit, hi⟩ := h
  simp only [Char.isDigit, Bool.and_eq_true, decide_eq_true_eq, UInt32.le_iff_toNat_le] at hdigit
  change 48 ≤ c.toNat ∧ c.toNat ≤ 57 at hdigit
  change some (c.toNat - 48) = some i at hi
  cases hi
  refine ⟨by omega, ?_⟩
  change c = Char.ofNat (48 + (c.toNat - 48))
  rw [Nat.add_sub_cancel' hdigit.1, Char.ofNat_toNat]

theorem digitValue?_digitChar (h : i < 10) : digitValue? (digitChar i) = some i := by
  interval_cases i <;> decide

theorem ne_hyphen_of_asciiDigit (h : asciiDigit? c = some i) : c ≠ '-' := by
  rintro rfl
  cases h

namespace Date

variable {s : List Char} {year month day low high n : Nat} {d : Date}

inductive SpellsYear : List Char → Nat → Prop
  | four {a b c d : Char} {i j k l : Nat} (ha : digitValue? a = some i)
    (hb : digitValue? b = some j) (hc : digitValue? c = some k) (hd : digitValue? d = some l) :
    SpellsYear [a, b, c, d] (1000 * i + 100 * j + 10 * k + l)

inductive SpellsMonth : List Char → Nat → Prop
  | one {c : Char} {i : Nat} (hc : asciiDigit? c = some i) : SpellsMonth [c] i
  | two {c c' : Char} {i j : Nat} (hc : asciiDigit? c = some i) (hc' : asciiDigit? c' = some j) :
    SpellsMonth [c, c'] (10 * i + j)

/-- One digit or two of ASCII spell a day as they spell a month. A blank may stand for the first of
two, and behind a one or a two the second may be of any script. -/
inductive SpellsDay : List Char → Nat → Prop
  | ascii {s : List Char} {n : Nat} (h : SpellsMonth s n) : SpellsDay s n
  | blank {c : Char} {i : Nat} (hc : asciiDigit? c = some i) : SpellsDay [' ', c] i
  | anyScript {c c' : Char} {i j : Nat} (hc : asciiDigit? c = some i) (hi : i = 1 ∨ i = 2)
    (hc' : digitValue? c' = some j) : SpellsDay [c, c'] (10 * i + j)

/-- Year, month and day are spelled with hyphens between them and nothing else. -/
inductive Spells (year month day : Nat) : List Char → Prop
  | intro {y m n : List Char} (hyear : SpellsYear y year) (hmonth : SpellsMonth m month)
    (hday : SpellsDay n day) : Spells year month day (y ++ '-' :: (m ++ '-' :: n))

structure IsDay (year month day : Nat) : Prop where
  year_pos : 1 ≤ year
  year_le : year ≤ 9999
  month_pos : 1 ≤ month
  month_le : month ≤ 12
  day_pos : 1 ≤ day
  day_le : day ≤ monthLength year month

theorem isDay (d : Date) : IsDay d.year d.month d.day :=
  ⟨d.year_pos, d.year_le, d.month_pos, d.month_le, d.day_pos, d.day_le⟩

theorem IsDay.exists_date (h : IsDay year month day) :
    ∃ d : Date, d.year = year ∧ d.month = month ∧ d.day = day :=
  ⟨⟨year, month, day, h.year_pos, h.year_le, h.month_pos, h.month_le, h.day_pos, h.day_le⟩,
    rfl, rfl, rfl⟩

theorem of?_self (d : Date) : of? d.year d.month d.day = some d :=
  dif_pos ⟨d.year_pos, d.year_le, d.month_pos, d.month_le, d.day_pos, d.day_le⟩

theorem of?_eq_some_iff :
    of? year month day = some d ↔ d.year = year ∧ d.month = month ∧ d.day = day := by
  constructor
  · intro h
    rw [of?, Option.dite_none_right_eq_some] at h
    obtain ⟨_, h⟩ := h
    cases h
    exact ⟨rfl, rfl, rfl⟩
  · rintro ⟨rfl, rfl, rfl⟩
    exact d.of?_self

theorem monthLength_le (year month : Nat) : monthLength year month ≤ 31 := by
  unfold monthLength
  split <;> (try split) <;> omega

theorem SpellsMonth.afterZero {i : Nat} (hc : asciiDigit? c = some i) :
    SpellsMonth ['0', c] i := by
  have hspells := SpellsMonth.two (c := '0') (i := 0) rfl hc
  rwa [Nat.mul_zero, Nat.zero_add] at hspells

theorem digitIn?_eq_some_iff :
    digitIn? low high c = some n ↔ asciiDigit? c = some n ∧ low ≤ n ∧ n ≤ high := by
  rw [digitIn?, Option.filter_eq_some_iff, Bool.and_eq_true, decide_eq_true_eq, decide_eq_true_eq]

theorem readMonth?_eq_some_iff :
    readMonth? s = some month ↔ SpellsMonth s month ∧ 1 ≤ month ∧ month ≤ 12 := by
  constructor
  · intro h
    unfold readMonth? at h
    split at h
    · obtain ⟨hc, hpos, hle⟩ := digitIn?_eq_some_iff.1 h
      exact ⟨.one hc, hpos, by omega⟩
    · split_ifs at h with hone hzero
      · obtain ⟨j, hj, rfl⟩ := Option.map_eq_some_iff.1 h
        obtain ⟨hc, -, hle⟩ := digitIn?_eq_some_iff.1 hj
        exact ⟨.two (i := 1) (hone ▸ rfl) hc, by omega, by omega⟩
      · obtain ⟨hc, hpos, hle⟩ := digitIn?_eq_some_iff.1 h
        exact ⟨hzero ▸ .afterZero hc, hpos, by omega⟩
    · cases h
  · rintro ⟨hspells, hpos, hle⟩
    cases hspells with
    | one hc =>
      have hi := (eq_digitChar_of_asciiDigit hc).1
      exact digitIn?_eq_some_iff.2 ⟨hc, hpos, by omega⟩
    | @two c c' i j hc hc' =>
      obtain ⟨-, rfl⟩ := eq_digitChar_of_asciiDigit hc
      obtain ⟨hj, -⟩ := eq_digitChar_of_asciiDigit hc'
      rcases (by omega : i = 0 ∨ i = 1) with rfl | rfl
      · rw [Nat.mul_zero, Nat.zero_add] at hpos ⊢
        exact digitIn?_eq_some_iff.2 ⟨hc', hpos, by omega⟩
      · exact Option.map_eq_some_iff.2 ⟨j, digitIn?_eq_some_iff.2 ⟨hc', by omega, by omega⟩, rfl⟩

/-- The reader prefers the longest of what could be a day, so two digits are never read as one. -/
theorem readDay?_eq_some_iff :
    readDay? s = some day ↔ SpellsDay s day ∧ 1 ≤ day ∧ day ≤ 31 := by
  constructor
  · intro h
    unfold readDay? at h
    split at h
    · obtain ⟨hc, hpos, hle⟩ := digitIn?_eq_some_iff.1 h
      exact ⟨.ascii (.one hc), hpos, by omega⟩
    · split_ifs at h with hthree hone htwo hfront
      · obtain ⟨j, hj, rfl⟩ := Option.map_eq_some_iff.1 h
        obtain ⟨hc, -, hle⟩ := digitIn?_eq_some_iff.1 hj
        exact ⟨.ascii (.two (i := 3) (hthree ▸ rfl) hc), by omega, by omega⟩
      · obtain ⟨j, hj, rfl⟩ := Option.map_eq_some_iff.1 h
        have hlt := (plain_of_digitValue hj).2
        exact ⟨.anyScript (i := 1) (hone ▸ rfl) (.inl rfl) hj, by omega, by omega⟩
      · obtain ⟨j, hj, rfl⟩ := Option.map_eq_some_iff.1 h
        have hlt := (plain_of_digitValue hj).2
        exact ⟨.anyScript (i := 2) (htwo ▸ rfl) (.inr rfl) hj, by omega, by omega⟩
      · obtain ⟨hc, hpos, hle⟩ := digitIn?_eq_some_iff.1 h
        refine ⟨?_, hpos, by omega⟩
        rcases hfront with rfl | rfl
        exacts [.ascii (.afterZero hc), .blank hc]
    · cases h
  · rintro ⟨hspells, hpos, hle⟩
    cases hspells with
    | ascii hspells =>
      cases hspells with
      | one hc =>
        have hi := (eq_digitChar_of_asciiDigit hc).1
        exact digitIn?_eq_some_iff.2 ⟨hc, hpos, by omega⟩
      | @two c c' i j hc hc' =>
        obtain ⟨-, rfl⟩ := eq_digitChar_of_asciiDigit hc
        obtain ⟨hj, rfl⟩ := eq_digitChar_of_asciiDigit hc'
        have hvalue := digitValue?_digitChar hj
        rcases (by omega : i = 0 ∨ i = 1 ∨ i = 2 ∨ i = 3) with rfl | rfl | rfl | rfl
        · rw [Nat.mul_zero, Nat.zero_add] at hpos ⊢
          exact digitIn?_eq_some_iff.2 ⟨hc', hpos, by omega⟩
        · exact Option.map_eq_some_iff.2 ⟨j, hvalue, rfl⟩
        · exact Option.map_eq_some_iff.2 ⟨j, hvalue, rfl⟩
        · exact Option.map_eq_some_iff.2
            ⟨j, digitIn?_eq_some_iff.2 ⟨hc', by omega, by omega⟩, rfl⟩
    | blank hc =>
      have hi := (eq_digitChar_of_asciiDigit hc).1
      exact digitIn?_eq_some_iff.2 ⟨hc, hpos, by omega⟩
    | anyScript hc hi hc' =>
      obtain ⟨-, rfl⟩ := eq_digitChar_of_asciiDigit hc
      rcases hi with rfl | rfl
      exacts [Option.map_eq_some_iff.2 ⟨_, hc', rfl⟩, Option.map_eq_some_iff.2 ⟨_, hc', rfl⟩]

theorem value_fourDigits {a b c c' : Char} : ([a, b, c, c'].mapM digitValue?).map digitsValue =
    some year ↔ SpellsYear [a, b, c, c'] year := by
  constructor
  · intro h
    obtain ⟨values, hvalues, rfl⟩ := Option.map_eq_some_iff.1 h
    simp only [List.mapM_cons, List.mapM_nil, Option.bind_eq_bind, Option.bind_eq_some_iff,
      Option.pure_def, Option.some.injEq] at hvalues
    obtain ⟨i, ha, _, ⟨j, hb, _, ⟨k, hc, _, ⟨l, hc', _, rfl, rfl⟩, rfl⟩, rfl⟩, rfl⟩ := hvalues
    have hyear : digitsValue [i, j, k, l] = 1000 * i + 100 * j + 10 * k + l := by
      simp only [digitsValue_eq, List.foldl_cons, List.foldl_nil]
      omega
    rw [hyear]
    exact .four ha hb hc hc'
  · rintro (⟨ha, hb, hc, hc'⟩)
    simp only [List.mapM_cons, List.mapM_nil, ha, hb, hc, hc', Option.bind_eq_bind,
      Option.bind_some, Option.pure_def, Option.map_some, Option.some.injEq, digitsValue_eq,
      List.foldl_cons, List.foldl_nil]
    omega

theorem SpellsYear.exists_four {y : List Char} (h : SpellsYear y year) :
    ∃ a b c c', y = [a, b, c, c'] := by
  cases h
  exact ⟨_, _, _, _, rfl⟩

theorem SpellsMonth.ne_hyphen {m : List Char} (h : SpellsMonth m month) :
    ∀ c ∈ m, (c != '-') = true := by
  cases h with
  | one hc => simpa using ne_hyphen_of_asciiDigit hc
  | two hc hc' => simpa using ⟨ne_hyphen_of_asciiDigit hc, ne_hyphen_of_asciiDigit hc'⟩

theorem readBare?_eq_some_iff : readBare? s = some d ↔ Spells d.year d.month d.day s := by
  constructor
  · intro h
    unfold readBare? at h
    split at h
    · next a b c c' rest =>
      simp only [Option.bind_eq_bind, Option.bind_eq_some_iff] at h
      obtain ⟨values, hvalues, month, hmonth, h⟩ := h
      split at h
      · next n hrest =>
        obtain ⟨day, hday, hdate⟩ := Option.bind_eq_some_iff.1 h
        obtain ⟨hyear, rfl, rfl⟩ := of?_eq_some_iff.1 hdate
        have hspells : SpellsYear [a, b, c, c'] d.year :=
          value_fourDigits.1 (by rw [hvalues, hyear]; rfl)
        rw [← List.takeWhile_append_dropWhile (p := (· != '-')) (l := rest), hrest]
        exact ⟨hspells, (readMonth?_eq_some_iff.1 hmonth).1, (readDay?_eq_some_iff.1 hday).1⟩
      · cases h
    · cases h
  · rintro ⟨hyear, hmonth, hday⟩
    obtain ⟨a, b, c, c', rfl⟩ := hyear.exists_four
    obtain ⟨values, hvalues, hvalue⟩ := Option.map_eq_some_iff.1 (value_fourDigits.2 hyear)
    have hreadMonth := readMonth?_eq_some_iff.2 ⟨hmonth, d.month_pos, d.month_le⟩
    have hreadDay := readDay?_eq_some_iff.2
      ⟨hday, d.day_pos, d.day_le.trans (monthLength_le d.year d.month)⟩
    simp only [List.cons_append, List.nil_append, readBare?, hvalues,
      List.takeWhile_append_of_pos hmonth.ne_hyphen, List.dropWhile_append_of_pos hmonth.ne_hyphen,
      List.takeWhile_cons, List.dropWhile_cons, bne_self_eq_false, Bool.false_eq_true, if_false,
      List.append_nil, hreadMonth, hreadDay, hvalue, Option.bind_eq_bind, Option.bind_some]
    exact d.of?_self

theorem spells_padded {n : Nat} (h : n < 100) : SpellsMonth (padded 2 n) n := by
  have hspells := SpellsMonth.two (asciiDigit?_digitChar (by omega : n / 10 < 10))
    (asciiDigit?_digitChar (by omega : n % 10 < 10))
  rwa [Nat.div_add_mod, ← padded_two h] at hspells

theorem spells_isoChars (d : Date) : Spells d.year d.month d.day d.isoChars := by
  have hyear := d.year_le
  have hmonth := d.month_le
  have hday := d.day_le.trans (monthLength_le d.year d.month)
  rw [isoChars, List.append_assoc, List.cons_append]
  refine ⟨?_, spells_padded (n := d.month) (by omega),
    .ascii (spells_padded (n := d.day) (by omega))⟩
  have hspells := SpellsYear.four (digitValue?_digitChar (by omega : d.year / 1000 < 10))
    (digitValue?_digitChar (by omega : d.year / 100 % 10 < 10))
    (digitValue?_digitChar (by omega : d.year / 10 % 10 < 10))
    (digitValue?_digitChar (by omega : d.year % 10 < 10))
  rw [← padded_four (by omega)] at hspells
  convert hspells using 1
  omega

theorem read?_isoChars (d : Date) : read? d.isoChars = some d := by
  rw [read?, strip_numerals d.isNumeral_isoChars]
  exact readBare?_eq_some_iff.2 d.spells_isoChars

end Date

namespace Entry

open Date

variable {t : Text} {d : Date}

theorem dateText_eq_ok_iff :
    dateText t = .ok d ↔ Spells d.year d.month d.day (strip t.chars) := by
  rw [← readBare?_eq_some_iff, dateText, read?]
  cases readBare? (strip t.chars) with
  | some found => simp
  | none => simp

theorem dateText_eq_error (h : ∀ d, dateText t ≠ .ok d) : dateText t = .error (.date t) := by
  unfold dateText at h ⊢
  split
  · next hd => exact absurd (by rw [hd]) (h _)
  · rfl

theorem dateText_isoChars (d : Date) {front back : List Char} (hfront : ∀ c ∈ front, isBlank c)
    (hback : ∀ c ∈ back, isBlank c) :
    dateText (String.ofList (front ++ d.isoChars ++ back)) = .ok d := by
  have hread := d.read?_isoChars
  rw [read?, strip] at hread
  rw [dateText_eq_ok_iff, ← readBare?_eq_some_iff, Text.chars, Text.toString_ofString,
    String.toList_ofList, strip, stripOf_around hfront hback, hread]

/-- A text is a date exactly if it spells one, blanks aside: it is then that very day, and
otherwise it is refused as no date. Every date is read back from its own text. -/
theorem dateText_grammar :
    (∀ (t : Text) (d : Date),
      dateText t = .ok d ↔ Spells d.year d.month d.day (strip t.chars)) ∧
    (∀ t : Text, (∃ d, dateText t = .ok d) ↔
      ∃ year month day, Spells year month day (strip t.chars) ∧ IsDay year month day) ∧
    (∀ t : Text, (¬∃ year month day, Spells year month day (strip t.chars) ∧
        IsDay year month day) →
      dateText t = .error (.date t) ∧ (Refusal.input (.date t)).kind = .invalidValue) ∧
    ∀ (d : Date) (front back : List Char), (∀ c ∈ front, isBlank c) → (∀ c ∈ back, isBlank c) →
      dateText (String.ofList (front ++ d.isoChars ++ back)) = .ok d := by
  have hspelled : ∀ t : Text, (∃ d, dateText t = .ok d) ↔
      ∃ year month day, Spells year month day (strip t.chars) ∧ IsDay year month day := by
    intro t
    constructor
    · rintro ⟨d, hd⟩
      exact ⟨d.year, d.month, d.day, dateText_eq_ok_iff.1 hd, d.isDay⟩
    · rintro ⟨year, month, day, hspells, hday⟩
      obtain ⟨d, rfl, rfl, rfl⟩ := hday.exists_date
      exact ⟨d, dateText_eq_ok_iff.2 hspells⟩
  refine ⟨fun t d => dateText_eq_ok_iff, hspelled, fun t hnone => ⟨?_, rfl⟩,
    fun d front back hfront hback => dateText_isoChars d hfront hback⟩
  exact dateText_eq_error fun d hd => hnone ((hspelled t).1 ⟨d, hd⟩)

theorem dateText_grammar_leapDay :
    (∃ d, dateText "\t٢٠٢٤-2-2٩\n" = .ok d ∧ d.isoChars = "2024-02-29".toList) ∧
    dateText "2023-2-29" = .error (.date "2023-2-29") ∧
    ∃ d, dateText " 0001-01-01 " = .ok d ∧ d.isoChars = "0001-01-01".toList := by
  obtain ⟨hread, hspelled, hrefused, hround⟩ := dateText_grammar
  refine ⟨?_, (hrefused _ ?_).1, ?_⟩
  · have hspells : Spells 2024 2 29 (strip "\t٢٠٢٤-2-2٩\n".toList) :=
      .intro (y := ['٢', '٠', '٢', '٤']) (m := ['2']) (n := ['2', '٩'])
        (.four (i := 2) (j := 0) (k := 2) (l := 4) rfl rfl rfl rfl) (.one rfl)
        (.anyScript (i := 2) (j := 9) rfl (.inr rfl) rfl)
    have hexists : IsDay 2024 2 29 :=
      ⟨by decide, by decide, by decide, by decide, by decide, by decide⟩
    obtain ⟨d, hyear, hmonth, hday⟩ := hexists.exists_date
    refine ⟨d, (hread _ d).2 (by rwa [hyear, hmonth, hday]), ?_⟩
    rw [isoChars, hyear, hmonth, hday, padded_four (by decide), padded_two (by decide),
      padded_two (by decide)]
    decide
  · rw [← hspelled]
    rintro ⟨d, hd⟩
    have herror : dateText "2023-2-29" = .error (.date "2023-2-29") := by decide
    rw [herror] at hd
    cases hd
  · have hexists : IsDay 1 1 1 :=
      ⟨by decide, by decide, by decide, by decide, by decide, by decide⟩
    obtain ⟨d, hyear, hmonth, hday⟩ := hexists.exists_date
    have hiso : d.isoChars = "0001-01-01".toList := by
      rw [isoChars, hyear, hmonth, hday, padded_four (by decide), padded_two (by decide)]
      decide
    have hblank : ∀ c ∈ [' '], isBlank c := List.forall_mem_singleton.2 rfl
    have htext := hround d [' '] [' '] hblank hblank
    rw [hiso] at htext
    exact ⟨d, htext, hiso⟩

end Entry
end AddOnLoan
