import AddOnLoan.Proofs.Calendar.Grammar
import AddOnLoan.Proofs.Entry
import AddOnLoan.Proofs.Schedule.Layout
import AddOnLoan.Proofs.View.Amounts

namespace AddOnLoan

namespace Csv

def lines? : List Char → Option (List (List Char))
  | [] => some []
  | '\r' :: '\n' :: rest => (lines? rest).map ([] :: ·)
  | c :: rest =>
    match lines? rest with
    | some (line :: lines) => some ((c :: line) :: lines)
    | _ => none

theorem lines?_append {line : List Char} (h : '\r' ∉ line) (rest : List Char) :
    lines? (line ++ ['\r', '\n'] ++ rest) = (lines? rest).map (line :: ·) := by
  induction line with
  | nil => rfl
  | cons c line ih =>
    rw [List.mem_cons, not_or] at h
    rw [List.cons_append, List.cons_append, lines?, ih h.2]
    · cases lines? rest <;> rfl
    · rintro _ rfl
      exact absurd rfl h.1

theorem lines?_flatMap {lines : List (List Char)} (h : ∀ line ∈ lines, '\r' ∉ line) :
    lines? (lines.flatMap (· ++ ['\r', '\n'])) = some lines := by
  induction lines with
  | nil => rfl
  | cons line lines ih =>
    rw [List.forall_mem_cons] at h
    rw [List.flatMap_cons, lines?_append h.1, ih h.2]
    rfl

end Csv

def countOf? (cs : List Char) : Option Nat :=
  match Decimal.spanDigits cs with
  | (d :: ds, []) => some (digitsValue (d :: ds))
  | _ => none

theorem countOf?_natText (n : Nat) : countOf? (natText n).toList = some n := by
  have hvalue := digitsValue_digits n
  have hne := Decimal.values_ne_nil (isDigit_digits n) (Decimal.digits_ne_nil n)
  rw [natText, String.toList_ofList, countOf?, Decimal.spanDigits_digits]
  cases hvalues : (digits n).filterMap asciiDigit? with
  | nil => exact absurd hvalues hne
  | cons d ds =>
    rw [hvalues] at hvalue
    exact congrArg some hvalue

theorem Entry.dateText_iso (d : Date) : Entry.dateText (d.iso : Text) = .ok d := by
  have hread : Date.read? (d.iso : Text).chars = some d :=
    (congrArg Date.read? String.toList_ofList).trans d.read?_isoChars
  rw [Entry.dateText, hread]

theorem Entry.number_text {x : Decimal} (hx : x.isFinite) (hreadable : x.readable) :
    Entry.number (x.text : Text) = .ok x := by
  have hnumeral := Decimal.isNumeral_text hx
  have hcommas : Entry.withoutCommas x.text.toList = x.text.toList :=
    List.filter_eq_self.2 fun c hc => bne_iff_ne.2 fun hcomma => by
      have := hnumeral c hc
      rw [hcomma] at this
      cases this
  rw [Entry.number_eq_ok_iff, Entry.numberOf?]
  change (Decimal.read? (strip (Entry.withoutCommas x.text.toList))).filter _ = _
  rw [hcommas, strip_numerals hnumeral, Decimal.read?_text hx hreadable, Option.filter_some,
    if_pos hx]

namespace Installment

def dateOf? (cs : List Char) : Option Date := (Entry.dateText (String.ofList cs)).toOption

def amountOf? (cs : List Char) : Option Decimal := (Entry.number (String.ofList cs)).toOption

def startOf? (cs : List Char) : Option (Option Date) :=
  if cs = [] then some none else (dateOf? cs).map some

def ofFields? : List (List Char) → Option Installment
  | [number, start, due, disbursed, principalDue, interestDue, totalDue, outstanding] => do
    return {
      number := ← countOf? number
      start := ← startOf? start
      due := ← dateOf? due
      disbursed := ← amountOf? disbursed
      principalDue := ← amountOf? principalDue
      interestDue := ← amountOf? interestDue
      totalDue := ← amountOf? totalDue
      outstanding := ← amountOf? outstanding }
  | _ => none

theorem dateOf?_iso (d : Date) : dateOf? d.iso.toList = some d := by
  rw [dateOf?, String.ofList_toList, Entry.dateText_iso]
  rfl

theorem amountOf?_text {x : Decimal} (hx : x.isFinite) (hreadable : x.readable) :
    amountOf? x.text.toList = some x := by
  rw [amountOf?, String.ofList_toList, Entry.number_text hx hreadable]
  rfl

theorem iso_ne_nil (d : Date) : d.iso.toList ≠ [] := by
  rw [Date.iso, String.toList_ofList, Date.isoChars]
  simp

theorem startOf?_eq (start : Option Date) :
    startOf? ((start.map (·.iso)).getD "").toList = some start := by
  cases start with
  | none => rfl
  | some d => exact (if_neg (iso_ne_nil d)).trans (congrArg (Option.map some) (dateOf?_iso d))

theorem ofFields?_csvFields {row : Installment} (hfinite : ∀ x ∈ row.amounts, x.isFinite)
    (hreadable : ∀ x ∈ row.amounts, x.readable) :
    ofFields? ((Schedule.csvFields row).map (·.toList)) = some row := by
  simp only [amounts, List.forall_mem_cons] at hfinite hreadable
  obtain ⟨hdisbursed, hprincipal, hinterest, htotal, houtstanding, -⟩ := hfinite
  obtain ⟨hdisbursed', hprincipal', hinterest', htotal', houtstanding', -⟩ := hreadable
  simp only [Schedule.csvFields, List.map_cons, List.map_nil, ofFields?, countOf?_natText,
    startOf?_eq, dateOf?_iso, amountOf?_text hdisbursed hdisbursed',
    amountOf?_text hprincipal hprincipal', amountOf?_text hinterest hinterest',
    amountOf?_text htotal htotal', amountOf?_text houtstanding houtstanding']
  rfl

end Installment

theorem Decimal.HasPlaces.readable {places : Nat} {x : Decimal} (hx : x.HasPlaces places)
    (hplaces : places ≤ 10) (h : |x.toRat| < 10 ^ 51 / 10 ^ places) : x.readable := by
  obtain ⟨s, n, rfl⟩ := hx.eq_finite
  rw [Decimal.toRat_finite, abs_mul, Decimal.abs_signed, abs_of_pos (by positivity), zpow_neg,
    zpow_natCast, ← div_eq_mul_inv, div_lt_div_iff_of_pos_right (by positivity)] at h
  have hn : n < 10 ^ 51 := by exact_mod_cast h
  have hdigits := (digitCount_le_iff (show 0 < 51 by omega)).2 hn
  simp only [Decimal.readable, Bool.and_eq_true, decide_eq_true_eq]
  omega

namespace Money

variable {c : Currency} {m : Money}

theorem abs_toRat_lt (hm : m.HeldIn c) (h : m.minor.natAbs < 10 ^ 51) :
    |m.amount.toRat| < 10 ^ 51 / 10 ^ c.places := by
  have habs : |(m.minor : ℚ)| < 10 ^ 51 := abs_intCast_lt_pow_iff.2 h
  rw [hm.toRat, abs_div, abs_of_pos (show (0 : ℚ) < 10 ^ c.places by positivity)]
  exact div_lt_div_of_pos_right habs (by positivity)

theorem readable_of_lt (hm : m.HeldIn c) (h : m.minor.natAbs < 10 ^ 51) : m.amount.readable :=
  hm.hasPlaces.readable c.places_le (abs_toRat_lt hm h)

theorem readable_zero (c : Currency) : (zero c).amount.readable :=
  readable_of_lt (heldIn_zero c) (Nat.pow_pos (by omega))

end Money

/-- A row that is not the payout, with amounts that can be read back. -/
structure Installment.Legible (row : Installment) : Prop where
  number : row.number ≠ 0
  start : row.start ≠ none
  readable : ∀ x ∈ row.amounts, x.readable

namespace Progress

variable {c : Currency} {lent : ℚ} {p q : Progress} {due : Date} {a b : Money}
  {payout : Installment}

/-- What has been collected has the digits of a sum, and all rows but the payout are legible. -/
structure Legible (payout : Installment) (p : Progress) : Prop where
  principal : p.principal.minor.natAbs < 10 ^ 50
  interest : p.interest.minor.natAbs < 10 ^ 50
  rows : ∀ row ∈ p.rows, row = payout ∨ row.Legible

theorem Legible.start (terms : LoanTerms) (payout : Installment) :
    (start terms payout).Legible payout where
  principal := Nat.pow_pos (by omega)
  interest := Nat.pow_pos (by omega)
  rows _ hrow := .inl (List.mem_singleton.1 hrow)

/-- A share is the difference of two sums, and its total and the balance are sums themselves. -/
theorem Legible.collect (hp : p.Legible payout) (hbalanced : p.Balanced c lent) (ha : a.HeldIn c)
    (hb : b.HeldIn c) (h : p.collect due a b = .ok q) : q.Legible payout := by
  obtain ⟨total, outstanding, principal, interest, repaid, htotal, hout, hprincipal, hinterest, -,
    rfl⟩ := collect_eq_ok h
  obtain ⟨total_held, -, htotal⟩ := (Money.plus_yields ha hb).result htotal
  obtain ⟨out_held, -, hout⟩ := (Money.minus_yields hbalanced.outstanding_held ha).result hout
  obtain ⟨-, hsum, hprincipal⟩ :=
    (Money.plus_yields hbalanced.principal_held ha).result hprincipal
  obtain ⟨-, hsum', hinterest⟩ :=
    (Money.plus_yields hbalanced.interest_held hb).result hinterest
  have hp' := hp.principal
  have hi' := hp.interest
  refine ⟨hprincipal, hinterest, List.forall_mem_cons.2 ⟨.inr ?_, hp.rows⟩⟩
  refine ⟨Nat.succ_ne_zero _, nofun, ?_⟩
  simp only [Installment.amounts, List.forall_mem_cons]
  exact ⟨Money.readable_zero _, Money.readable_of_lt ha (by omega),
    Money.readable_of_lt hb (by omega), Money.readable_of_lt total_held (by omega),
    Money.readable_of_lt out_held (by omega),
    List.forall_mem_nil _⟩

end Progress

namespace Engine

variable {engine : Engine} {terms : LoanTerms} {dueDates : List Date} {perYear : Decimal}
  {s : Schedule}

namespace Run

variable (run : Run engine terms dueDates perYear)

theorem full_legible : run.full.Legible run.payout :=
  run.traced (P := fun _ p => p.Legible run.payout) (.start terms run.payout)
    fun _ _ _ _ _ _ hbalanced ha hb hp h => hp.collect hbalanced ha hb h

/-- The amounts of the payout are legible too, since its principal is what is collected in the
end. -/
theorem readable_payout : ∀ x ∈ run.payout.amounts, x.readable := by
  have hshort := run.full_legible.principal
  have hprincipal : terms.principal.amount.readable := by
    refine run.principal_held.hasPlaces.readable terms.currency.places_le ?_
    rw [← run.full_principal]
    exact Money.abs_toRat_lt run.full_balanced.principal_held (by omega)
  obtain ⟨zero, hzero, hplaces, hpayout⟩ := Installment.disbursement_places
    run.principal_held.hasPlaces terms.currency.places_le run.payout_eq
  have hzero_readable : zero.readable := by
    obtain ⟨s, n, rfl⟩ := hplaces.eq_finite
    obtain rfl : n = 0 := eq_of_beq hzero
    exact hplaces.readable terms.currency.places_le (by cases s <;> simp [Decimal.signed])
  rw [hpayout]
  simp only [Installment.amounts, List.forall_mem_cons]
  exact ⟨hprincipal, hzero_readable, hzero_readable, hzero_readable, hprincipal,
    List.forall_mem_nil _⟩

end Run

theorem legible_of_compute (h : (engine.compute terms dueDates perYear).outcome = .ok s) :
    ∀ row ∈ s.rows, (∀ x ∈ row.amounts, x.isFinite) ∧ (∀ x ∈ row.amounts, x.readable) ∧
      (row.start = none ↔ row.number = 0) := by
  obtain ⟨run, hs⟩ := exists_run h
  obtain ⟨rest, hrest, rfl⟩ := schedule_eq_ok hs
  intro row hrow
  rw [List.mem_reverse] at hrow
  refine ⟨run.full_balanced.finite row hrow, ?_⟩
  rcases run.full_legible.rows row hrow with rfl | hlegible
  · obtain ⟨zero, -, -, hpayout⟩ := Installment.disbursement_places
      run.principal_held.hasPlaces terms.currency.places_le run.payout_eq
    exact ⟨run.readable_payout, by rw [hpayout]; exact iff_of_true rfl rfl⟩
  · exact ⟨hlegible.readable, iff_of_false hlegible.start hlegible.number⟩

end Engine

/-- A line of comma-separated values shows a row: it has eight fields, they are those of the row,
and the second is empty exactly for the payout. -/
structure Csv.Shows (line : List Char) (row : Installment) : Prop where
  count : (line.splitOn ',').length = 8
  fields : Installment.ofFields? (line.splitOn ',') = some row
  start : (line.splitOn ',')[1]? = some [] ↔ row.number = 0

/-- Comma-separated values that lose nothing of a schedule: a line with the names of the columns,
and a line for each row that shows it. -/
def Schedule.ReadsBack (s : Schedule) : Prop :=
  ∃ heading lines, Csv.lines? s.csv.toList = some (heading :: lines) ∧
    heading.splitOn ',' = Schedule.csvHeader.map (·.toList) ∧ List.Forall₂ Csv.Shows lines s.rows

theorem Csv.shows_rowLine {row : Installment} (hfinite : ∀ x ∈ row.amounts, x.isFinite)
    (hreadable : ∀ x ∈ row.amounts, x.readable) (hstart : row.start = none ↔ row.number = 0) :
    Csv.Shows (rowLine ',' (Schedule.csvFields row)) row := by
  have hsplit := splitOn_rowLine (.inl rfl) (Schedule.isCell_row hfinite).1
    (show Schedule.csvFields row ≠ [] from List.cons_ne_nil _ _)
  refine ⟨by rw [hsplit]; rfl, ?_, ?_⟩
  · rw [hsplit]
    exact Installment.ofFields?_csvFields hfinite hreadable
  · rw [hsplit, ← hstart]
    change some ((row.start.map (·.iso)).getD "").toList = some [] ↔ _
    rw [Option.some.injEq]
    cases row.start with
    | none => exact iff_of_true rfl rfl
    | some d => exact iff_of_false (Installment.iso_ne_nil d) nofun

namespace Engine

variable {engine : Engine} {terms : LoanTerms} {dueDates : List Date} {perYear : Decimal}
  {s : Schedule}

/-- The comma-separated values of every schedule that comes about lose nothing of it. -/
theorem compute_readsBack (h : (engine.compute terms dueDates perYear).outcome = .ok s) :
    s.ReadsBack := by
  have hlegible := legible_of_compute h
  have hcells := Schedule.isCell_csv fun row hrow => (hlegible row hrow).1
  refine ⟨rowLine ',' Schedule.csvHeader,
    s.rows.map fun row => rowLine ',' (Schedule.csvFields row), ?_,
    splitOn_rowLine (.inl rfl) (hcells _ List.mem_cons_self) (List.cons_ne_nil _ _), ?_⟩
  · rw [Schedule.csv_toList fun row hrow => (hlegible row hrow).1, Csv.lines?_flatMap]
    · rw [List.map_cons, List.map_map]
      rfl
    · rw [List.forall_mem_map]
      exact fun row hrow => (isLine_rowLine (.inl rfl) (hcells row hrow)).2
  · rw [List.forall₂_map_left_iff, List.forall₂_same]
    exact fun row hrow => Csv.shows_rowLine (hlegible row hrow).1 (hlegible row hrow).2.1
      (hlegible row hrow).2.2

theorem compute_readsBack_mites : ∃ s,
    (({} : Engine).compute mites [longLoan.disbursed] (.ofNat 1)).outcome = .ok s ∧
      s.ReadsBack := by
  obtain ⟨s, h, -⟩ := exists_schedule_mites
  exact ⟨s, h, compute_readsBack h⟩

end Engine
end AddOnLoan
