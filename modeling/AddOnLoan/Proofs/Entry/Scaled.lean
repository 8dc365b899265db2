import AddOnLoan.Proofs.Decimal.Order
import AddOnLoan.Proofs.Entry

namespace AddOnLoan

variable {c mark : Char} {s body commas blanks : List Char}

/-- Of the runs of letters only that of ASCII and the sign of the kelvin lead to a small k, and only
that of ASCII to a small m. -/
theorem runs_scales : ∀ r ∈ lowerRuns,
    (r.small r.last < 0x6b ∨ 0x6b < r.small r.first ∨ r.shift = 32 ∨ r.shift = -8383) ∧
      (r.small r.last < 0x6d ∨ 0x6d < r.small r.first ∨ r.shift = 32) := by
  decide +kernel

theorem shift_of_lowerLetter {small : Char} (hpos : 0 < small.toNat)
    (h : lowerLetter c = small) : c = small ∨ ∃ r ∈ lowerRuns, r.small r.first ≤ small.toNat ∧
      small.toNat ≤ r.small r.last ∧ (c.toNat : Int) + r.shift = small.toNat := by
  rcases lowerLetter_eq c with hc | ⟨r, hr, hfirst, hlast, hc⟩
  · exact .inl (hc ▸ h)
  have hcode : r.small c.toNat = small.toNat := by
    rw [← h, hc, Char.toNat_ofNat] at hpos ⊢
    split at hpos
    · next hvalid => rw [if_pos hvalid]
    · exact absurd hpos (Nat.lt_irrefl 0)
  refine .inr ⟨r, hr, hcode ▸ r.small_mono hfirst, hcode ▸ r.small_mono hlast, ?_⟩
  rw [CaseRun.small] at hcode
  omega

theorem lowerLetter_eq_k_iff : lowerLetter c = 'k' ↔ c = 'k' ∨ c = 'K' ∨ c = '\u212a' := by
  constructor
  · intro h
    rcases shift_of_lowerLetter (by decide) h with rfl | ⟨r, hr, hlow, hhigh, hshift⟩
    · exact .inl rfl
    change r.small r.first ≤ 0x6b at hlow
    change 0x6b ≤ r.small r.last at hhigh
    change (c.toNat : Int) + r.shift = 0x6b at hshift
    have hcode : c.toNat = 'K'.toNat ∨ c.toNat = '\u212a'.toNat := by
      have hrun := (runs_scales r hr).1
      change c.toNat = 0x4b ∨ c.toNat = 0x212a
      omega
    exact .inr (hcode.imp Char.toNat_inj.1 Char.toNat_inj.1)
  · rintro (rfl | rfl | rfl) <;> decide +kernel

theorem lowerLetter_eq_m_iff : lowerLetter c = 'm' ↔ c = 'm' ∨ c = 'M' := by
  constructor
  · intro h
    rcases shift_of_lowerLetter (by decide) h with rfl | ⟨r, hr, hlow, hhigh, hshift⟩
    · exact .inl rfl
    change r.small r.first ≤ 0x6d at hlow
    change 0x6d ≤ r.small r.last at hhigh
    change (c.toNat : Int) + r.shift = 0x6d at hshift
    have hcode : c.toNat = 'M'.toNat := by
      have hrun := (runs_scales r hr).2
      change c.toNat = 0x4d
      omega
    exact .inr (Char.toNat_inj.1 hcode)
  · rintro (rfl | rfl) <;> decide +kernel

theorem lowerLetter_eq_comma_iff : lowerLetter c = ',' ↔ c = ',' := by
  constructor
  · intro h
    have hplain : isPlainInNumber c := plain_of_lowerLetter (h ▸ rfl)
    rw [lowerLetter_of_plain hplain, smallMark] at h
    split at h
    · cases h
    · exact h
  · rintro rfl
    exact lowerLetter_of_plain rfl

namespace Entry

variable {t : Text} {x : Decimal} {factor : Nat} {u w : List Char}

/-- What a letter multiplies the number before it with, in either case. The sign of the kelvin is a
K as well. -/
def scaleOf? (c : Char) : Option Nat :=
  if c = 'k' ∨ c = 'K' ∨ c = '\u212a' then some 1000
  else if c = 'm' ∨ c = 'M' then some 1000000
  else none

/-- The number that characters hold, and what the letter behind it multiplies it with. Behind the
letter commas may stand, and blanks behind those. -/
inductive Written (s : List Char) : Nat → Decimal → Prop
  | plain {x : Decimal} (hx : numberOf? s = some x) : Written s 1 x
  | scaled {body commas blanks : List Char} {mark : Char} {factor : Nat} {x : Decimal}
    (hs : s = body ++ mark :: (commas ++ blanks)) (hcommas : ∀ c ∈ commas, c = ',')
    (hblanks : ∀ c ∈ blanks, isBlank c) (hmark : scaleOf? mark = some factor)
    (hx : numberOf? body = some x) : Written s factor x

inductive IsScale : Char → Nat → Prop
  | thousand : IsScale 'k' 1000
  | million : IsScale 'm' 1000000

theorem IsScale.ne_one (h : IsScale c factor) : factor ≠ 1 := by
  cases h <;> decide

theorem scaleOf?_eq_some_iff : scaleOf? c = some factor ↔ IsScale (lowerLetter c) factor := by
  constructor
  · intro h
    rw [scaleOf?] at h
    split_ifs at h with hk hm
    · cases h
      rw [lowerLetter_eq_k_iff.2 hk]
      exact .thousand
    · cases h
      rw [lowerLetter_eq_m_iff.2 hm]
      exact .million
  · intro h
    generalize hsmall : lowerLetter c = small at h
    cases h with
    | thousand => exact if_pos (lowerLetter_eq_k_iff.1 hsmall)
    | million =>
      have hk : ¬(c = 'k' ∨ c = 'K' ∨ c = '\u212a') := by
        rw [← lowerLetter_eq_k_iff, hsmall]
        decide
      rw [scaleOf?, if_neg hk, if_pos (lowerLetter_eq_m_iff.1 hsmall)]

theorem scale_of_isScale (h : IsScale c factor) :
    scale (String.ofList (w ++ [c]) : Text) = (factor, (String.ofList w : Text)) := by
  rw [scale, Text.points_ofString, String.toList_ofList, List.map_append, List.map_singleton,
    List.getLast?_concat, List.dropLast_concat, Text.ofPoints_chars]
  cases h <;> rfl

theorem scale_cases (t : Text) : scale t = (1, t) ∨
    ∃ points c factor, t.points = points ++ [.char c] ∧ IsScale c factor ∧
      scale t = (factor, .ofPoints points) := by
  have hlast {c : Char} (h : t.points.getLast? = some (.char c)) :
      t.points = t.points.dropLast ++ [.char c] := (List.dropLast_append_getLast? _ h).symm
  unfold scale
  split
  · next h => exact .inr ⟨_, _, _, hlast h, .thousand, rfl⟩
  · next h => exact .inr ⟨_, _, _, hlast h, .million, rfl⟩
  · exact .inl rfl

theorem numberOf?_blanks_append (hblanks : ∀ c ∈ blanks, isBlank c) :
    numberOf? (blanks ++ s) = numberOf? s := by
  have hstrip : strip (blanks ++ s) = strip s := by
    have haround := stripOf_around (s := s) (b := []) hblanks nofun
    rwa [List.append_nil] at haround
  rw [← numberOf?_strip, hstrip, numberOf?_strip]

theorem scaleOf?_cases (h : scaleOf? mark = some factor) :
    mark = 'k' ∨ mark = 'K' ∨ mark = '\u212a' ∨ mark = 'm' ∨ mark = 'M' := by
  rw [scaleOf?] at h
  split_ifs at h with hk hm
  · exact hk.imp_right fun h => h.imp_right .inl
  · exact .inr (.inr (.inr hm))

theorem withoutCommas_commas (hcommas : ∀ c ∈ commas, c = ',') : withoutCommas commas = [] :=
  List.filter_eq_nil_iff.2 fun c hc => by rw [hcommas c hc]; decide

theorem strip_of_scaled (hmark : scaleOf? mark = some factor) (hcommas : ∀ c ∈ commas, c = ',')
    (hblanks : ∀ c ∈ blanks, isBlank c) :
    strip (body ++ mark :: (commas ++ blanks)) = body.dropWhile isBlank ++ mark :: commas := by
  have hkept : ∀ c ∈ mark :: commas, isBlank c = false := by
    refine List.forall_mem_cons.2 ⟨?_, fun c hc => hcommas c hc ▸ rfl⟩
    rcases scaleOf?_cases hmark with rfl | rfl | rfl | rfl | rfl <;> rfl
  rw [strip, ← List.cons_append, ← List.append_assoc]
  exact stripOf_append_kept hkept (List.cons_ne_nil _ _) hblanks

theorem reads_of_scaled (hcommas : ∀ c ∈ commas, c = ',') (hblanks : ∀ c ∈ blanks, isBlank c)
    (hmark : scaleOf? mark = some factor) (hx : numberOf? body = some x) :
    ∃ u, withoutCommas (lower (strip (body ++ mark :: (commas ++ blanks)))) =
      u ++ [lowerLetter mark] ∧ numberOf? u = some x := by
  obtain ⟨bare, hbare⟩ : ∃ bare, body.dropWhile isBlank = bare := ⟨_, rfl⟩
  have hbody : numberOf? bare = some x := by
    rw [← hx, ← List.takeWhile_append_dropWhile (p := isBlank) (l := body), hbare]
    exact (numberOf?_blanks_append fun c hc => List.mem_takeWhile_imp hc).symm
  have hmarkSimple : mark ≠ 'Σ' ∧ mark ≠ 'İ' ∧ (lowerLetter mark != ',') = true := by
    rcases scaleOf?_cases hmark with rfl | rfl | rfl | rfl | rfl <;> decide +kernel
  have hsimple : AllSimple (bare ++ mark :: commas) :=
    List.forall_mem_append.2 ⟨(plain_of_numberOf hbody).simple,
      List.forall_mem_cons.2 ⟨⟨hmarkSimple.1, hmarkSimple.2.1⟩, fun c hc => by
        rw [hcommas c hc]
        decide⟩⟩
  have hcommas' : ∀ c ∈ commas.map lowerLetter, c = ',' := by
    intro c hc
    obtain ⟨comma, hcomma, rfl⟩ := List.mem_map.1 hc
    exact lowerLetter_eq_comma_iff.2 (hcommas _ hcomma)
  refine ⟨withoutCommas (lower bare), ?_, ?_⟩
  · rw [strip_of_scaled hmark hcommas hblanks, hbare, lower, lowerAfter_of_simple hsimple, lower,
      lowerAfter_of_simple (plain_of_numberOf hbody).simple, List.map_append, List.map_cons,
      withoutCommas, List.filter_append, List.filter_cons_of_pos (p := (· != ',')) hmarkSimple.2.2,
      show (commas.map lowerLetter).filter (· != ',') = [] from withoutCommas_commas hcommas']
    rfl
  · rw [numberOf?_withoutCommas, numberOf?_lower, hbody]

theorem simple_of_reads (hreads : withoutCommas (lower s) = u ++ [c]) (hc : IsScale c factor)
    (hu : AllPlain u) : AllSimple s := by
  refine simple_of_lowerAfter fun c' (hc' : c' ∈ lower s) => ?_
  by_cases hcomma : c' = ','
  · rw [hcomma]
    decide
  have hmem : c' ∈ u ++ [c] := hreads ▸ List.mem_filter.2 ⟨hc', bne_iff_ne.2 hcomma⟩
  rcases List.mem_append.1 hmem with hmem | hmem
  · have hplain := hu c' hmem
    refine ⟨?_, ?_, ?_⟩ <;>
    · rintro rfl
      exact absurd hplain (by decide)
  · rw [List.mem_singleton.1 hmem]
    cases hc <;> decide

theorem written_of_reads (hreads : withoutCommas (lower (strip s)) = u ++ [c])
    (hc : IsScale c factor) (hx : numberOf? u = some x) : Written s factor x := by
  have hsimple := simple_of_reads hreads hc (plain_of_numberOf hx)
  rw [lower, lowerAfter_of_simple hsimple] at hreads
  -- the letter is found again among the characters that were there at first
  obtain ⟨front, behind, hsplit, hfront, hbehind⟩ := List.filter_eq_append_iff.1 hreads
  obtain ⟨between, after, rfl, hbetween, -, hafter⟩ := List.filter_eq_cons_iff.1 hbehind
  obtain ⟨body, rest, hstrip, hbody, hrest⟩ := List.map_eq_append_iff.1 hsplit
  obtain ⟨more, tail, rfl, hmore, htail⟩ := List.map_eq_append_iff.1 hrest
  obtain ⟨mark, commas, rfl, rfl, hcommas⟩ := List.map_eq_cons_iff.1 htail
  obtain ⟨a, b, hs, ha, hb⟩ := exists_around isBlank s
  have hchars : s = a ++ (body ++ more) ++ mark :: (commas ++ b) := by
    rw [hs, show stripOf isBlank s = body ++ (more ++ mark :: commas) from hstrip]
    simp only [List.append_assoc, List.cons_append]
  refine .scaled hchars (fun c hcomma => ?_) hb (scaleOf?_eq_some_iff.2 hc) ?_
  · have hmem : lowerLetter c ∈ after := hcommas ▸ List.mem_map_of_mem hcomma
    have hcomma' := List.filter_eq_nil_iff.1 hafter _ hmem
    exact lowerLetter_eq_comma_iff.1 (by simpa using hcomma')
  · have hsimple' : AllSimple (body ++ more) := fun c hmem =>
      hsimple c (by rw [hstrip, ← List.append_assoc]; exact List.mem_append_left _ hmem)
    have hlower : withoutCommas (lower (body ++ more)) = u := by
      rw [lower, lowerAfter_of_simple hsimple', List.map_append, hbody, hmore, withoutCommas,
        List.filter_append, hfront, List.filter_eq_nil_iff.2 hbetween, List.append_nil]
    rw [numberOf?_blanks_append ha, ← numberOf?_lower, ← numberOf?_withoutCommas, hlower, hx]

def amountContext : Context := ⟨28, .halfEven⟩

theorem amountText_ofString (s : String) : amountText s =
    (String.ofList (withoutCommas (lower (strip s.toList))) : Text) := by
  simp [amountText, Text.strip_ofString, Text.lower, Text.mapPlain]

theorem amount_of_plain (hx : numberOf? t.chars = some x) : amount t = .ok x := by
  have hnumber : number t = .ok x := number_eq_ok_iff.2 hx
  have hplain := plain_of_numberOf (number_eq_ok_iff.1 (number_amountText.2 hnumber))
  have hends : endsInScale t = false := by
    have hlast {c : Char} (hc : isPlainInNumber c = false) :
        (amountText t).points.getLast? ≠ some (.char c) := by
      intro hlast
      have hmem : c ∈ (amountText t).chars := by
        rw [Text.chars_eq]
        exact List.mem_map.2 ⟨_, List.mem_of_getLast? hlast, rfl⟩
      exact Bool.eq_false_iff.1 hc (hplain c hmem)
    rw [endsInScale, beq_eq_false_iff_ne.2 (hlast (by decide)),
      beq_eq_false_iff_ne.2 (hlast (by decide))]
    rfl
  exact (amount_eq_ok_iff hends).2 hnumber

theorem rest_of_scaled (hs : t.chars = body ++ mark :: (commas ++ blanks))
    (hcommas : ∀ c ∈ commas, c = ',') (hblanks : ∀ c ∈ blanks, isBlank c)
    (hmark : scaleOf? mark = some factor) (hx : numberOf? body = some x) : t.rest = [] := by
  by_contra hrest
  have hmem := Text.mem_chars_of_rest_ne_nil hrest
  rw [hs] at hmem
  simp only [List.mem_append, List.mem_cons] at hmem
  rcases hmem with hmem | rfl | hmem | hmem
  · exact absurd (plain_of_numberOf hx _ hmem) (by decide)
  · cases hmark
  · exact absurd (hcommas _ hmem) (by decide)
  · exact absurd (hblanks _ hmem) (by decide)

theorem amount_of_scaled (hs : t.chars = body ++ mark :: (commas ++ blanks))
    (hcommas : ∀ c ∈ commas, c = ',') (hblanks : ∀ c ∈ blanks, isBlank c)
    (hmark : scaleOf? mark = some factor) (hx : numberOf? body = some x) :
    amount t = (amountContext.mul x (.ofNat factor)).mapError .signal := by
  obtain ⟨s, rfl⟩ := Text.exists_ofString (rest_of_scaled hs hcommas hblanks hmark hx)
  obtain ⟨u, hreads, hu⟩ := reads_of_scaled hcommas hblanks hmark hx
  have hscale : scale (amountText s) = (factor, (String.ofList u : Text)) := by
    rw [amountText_ofString, show s.toList = _ from hs, hreads]
    exact scale_of_isScale (scaleOf?_eq_some_iff.1 hmark)
  have hnumber : number (String.ofList u : Text) = .ok x := by
    rw [number_eq_ok_iff, Text.chars, Text.toString_ofString, String.toList_ofList, hu]
  unfold amount
  rw [show scale ((s : Text).strip.lower.mapPlain withoutCommas) = _ from hscale]
  dsimp only
  rw [hnumber]
  exact if_neg (scaleOf?_eq_some_iff.1 hmark).ne_one

theorem Written.isFinite {s : List Char} (h : Written s factor x) : x.isFinite := by
  cases h with
  | plain hx => exact (Option.filter_eq_some_iff.1 hx).2
  | scaled _ _ _ _ hx => exact (Option.filter_eq_some_iff.1 hx).2

theorem IsScale.unique {factor' : Nat} (h : IsScale c factor) (h' : IsScale c factor') :
    factor = factor' := by
  cases h <;> cases h' <;> rfl

theorem not_plain_of_scaled (hmark : scaleOf? mark = some factor) : isPlainInNumber mark = false := by
  rcases scaleOf?_cases hmark with rfl | rfl | rfl | rfl | rfl <;> decide

theorem Written.unique {s : List Char} {factor' : Nat} {x' : Decimal} (h : Written s factor x)
    (h' : Written s factor' x') : factor = factor' ∧ x = x' := by
  cases h with
  | plain hx =>
    cases h' with
    | plain hx' => exact ⟨rfl, Option.some.inj (hx.symm.trans hx')⟩
    | scaled hs _ _ hmark _ =>
      have hplain := plain_of_numberOf hx _ (hs ▸ List.mem_append_right _ List.mem_cons_self)
      exact absurd hplain (Bool.eq_false_iff.1 (not_plain_of_scaled hmark))
  | scaled hs hcommas hblanks hmark hx =>
    cases h' with
    | plain hx' =>
      have hplain := plain_of_numberOf hx' _ (hs ▸ List.mem_append_right _ List.mem_cons_self)
      exact absurd hplain (Bool.eq_false_iff.1 (not_plain_of_scaled hmark))
    | scaled hs' hcommas' hblanks' hmark' hx' =>
      obtain ⟨u, hreads, hu⟩ := reads_of_scaled hcommas hblanks hmark hx
      obtain ⟨u', hreads', hu'⟩ := reads_of_scaled hcommas' hblanks' hmark' hx'
      rw [← hs] at hreads
      rw [← hs', hreads] at hreads'
      obtain ⟨rfl, hletter⟩ := List.append_inj' hreads' rfl
      have hscale := scaleOf?_eq_some_iff.1 hmark
      rw [List.singleton_inj.1 hletter] at hscale
      exact ⟨hscale.unique (scaleOf?_eq_some_iff.1 hmark'), Option.some.inj (hu.symm.trans hu')⟩

theorem amount_of_written (h : Written t.chars factor x) : amount t =
    if factor = 1 then .ok x else (amountContext.mul x (.ofNat factor)).mapError .signal := by
  cases h with
  | plain hx => exact amount_of_plain hx
  | scaled hs hcommas hblanks hmark hx =>
    rw [if_neg (scaleOf?_eq_some_iff.1 hmark).ne_one]
    exact amount_of_scaled hs hcommas hblanks hmark hx

theorem toRat_factor (factor : Nat) : (Decimal.finite false factor 0).toRat = factor := by
  rw [Decimal.toRat_finite, zpow_zero, mul_one]
  rfl

theorem mul_factor_eq_error_iff (hx : x.isFinite) {signal : Signal} :
    amountContext.mul x (.ofNat factor) = .error signal ↔
      signal = .overflow ∧ amountContext.Overflows (x.toRat * factor) := by
  obtain ⟨s, c, e, rfl⟩ := Decimal.eq_finite hx
  rw [Decimal.ofNat, Context.mul_eq_error_iff (by decide), toRat_factor]

theorem number_ne_ok_of_scale {points : List CodePoint}
    (hwritten : ∀ factor x, ¬Written t.chars factor x)
    (hpoints : (amountText t).points = points ++ [.char c]) (hc : IsScale c factor) :
    number (.ofPoints points) ≠ .ok x := by
  intro hnumber
  by_cases hrest : t.rest = []
  · obtain ⟨s, rfl⟩ := Text.exists_ofString hrest
    rw [amountText_ofString, Text.points_ofString, String.toList_ofList] at hpoints
    obtain ⟨u, last, hreads, rfl, hlast⟩ := List.map_eq_append_iff.1 hpoints
    obtain ⟨c', rfl, hc'⟩ := List.map_eq_singleton_iff.1 hlast
    cases hc'
    rw [Text.ofPoints_chars, number_eq_ok_iff, Text.chars, Text.toString_ofString,
      String.toList_ofList] at hnumber
    exact hwritten _ _ (written_of_reads hreads hc hnumber)
  · have hrest' : (amountText t).rest ≠ [] := by
      simpa [amountText, Text.lower, Text.mapPlain] using Text.strip_rest_ne_nil hrest
    obtain ⟨half, hmem⟩ := Text.exists_half hrest'
    have hbody : CodePoint.half half ∈ points := by
      simpa only [hpoints, List.mem_append, List.mem_singleton, reduceCtorEq, or_false] using hmem
    exact number_ne_ok_of_rest (Text.ofPoints_rest_ne_nil hbody) hnumber

theorem amount_of_not_written (h : ∀ factor x, ¬Written t.chars factor x) :
    ∃ shown, amount t = .error (.notANumber shown) := by
  rcases scale_cases (amountText t) with hscale | ⟨points, c, factor, hpoints, hc, hscale⟩
  · rw [amount_of_scale hscale]
    cases hnumber : number (amountText t) with
    | ok x => exact absurd (.plain (number_eq_ok_iff.1 (number_amountText.1 hnumber))) (h 1 x)
    | error e => exact ⟨_, rfl⟩
  · unfold amount
    rw [show scale (t.strip.lower.mapPlain withoutCommas) = _ from hscale]
    dsimp only
    split
    · next x hnumber => exact absurd hnumber (number_ne_ok_of_scale h hpoints hc)
    · exact ⟨_, rfl⟩

theorem amount_eq_signal_iff {signal : Signal} : amount t = .error (.signal signal) ↔
    signal = .overflow ∧ ∃ factor x, Written t.chars factor x ∧ factor ≠ 1 ∧
      amountContext.Overflows (x.toRat * factor) := by
  constructor
  · intro h
    by_cases hwritten : ∃ factor x, Written t.chars factor x
    · obtain ⟨factor, x, hwritten⟩ := hwritten
      rw [amount_of_written hwritten] at h
      split_ifs at h with hfactor
      obtain ⟨_, hmul, hsignal⟩ := mapError_eq_error_iff.1 h
      cases hsignal
      obtain ⟨rfl, hlarge⟩ := (mul_factor_eq_error_iff hwritten.isFinite).1 hmul
      exact ⟨rfl, factor, x, hwritten, hfactor, hlarge⟩
    · obtain ⟨shown, hshown⟩ :=
        amount_of_not_written fun factor x hx => hwritten ⟨factor, x, hx⟩
      cases hshown.symm.trans h
  · rintro ⟨rfl, factor, x, hwritten, hfactor, hlarge⟩
    rw [amount_of_written hwritten, if_neg hfactor,
      (mul_factor_eq_error_iff hwritten.isFinite).2 ⟨rfl, hlarge⟩]
    rfl

end Entry
end AddOnLoan
