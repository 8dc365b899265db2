import AddOnLoan.Proofs.Schedule.Layout
import AddOnLoan.Proofs.View.Cells
import AddOnLoan.View.Slim

namespace AddOnLoan

namespace Json

mutual

/-- The texts that stand under some keys anywhere in a value. -/
def textsUnder (keys : List Text) : Json → List Text
  | .array items => itemsTexts keys items
  | .object fields => fieldsTexts keys fields
  | _ => []

def itemsTexts (keys : List Text) : List Json → List Text
  | [] => []
  | item :: rest => item.textsUnder keys ++ itemsTexts keys rest

def fieldsTexts (keys : List Text) : List (Text × Json) → List Text
  | [] => []
  | (key, .text t) :: rest => (if key ∈ keys then [t] else []) ++ fieldsTexts keys rest
  | (_, value) :: rest => value.textsUnder keys ++ fieldsTexts keys rest

end

def amountKeys : List Text := [
  "principalDisbursed", "principalDue", "interestDue", "totalDue",
  "principalLoanBalanceOutstanding", "cumulativePrincipalDisbursed", "cumulativePrincipalDue",
  "cumulativePrincipalOutstanding", "cumulativeInterestExpected", "cumulativeChargesToDate",
  "totalExpectedRepayment", "amount"]

def amounts (view : Json) : List (List Char) := (view.textsUnder amountKeys).map (·.chars)

end Json

/-- Texts that show amounts in a currency with so many places: each is plain notation with these
places exactly if there are at most six of them or the amount is not below one millionth. -/
def ShownAt (places : Nat) (texts : List (List Char)) (amounts : List Decimal) : Prop :=
  List.Forall₂ (fun cs x => cs = x.text.toList ∧
    (IsFixedPoint places cs ↔ places ≤ 6 ∨ 1 / 10 ^ 6 ≤ |x.toRat|)) texts amounts

theorem shownAt_map {places : Nat} {xs : List Decimal} (h : ∀ x ∈ xs, x.HasPlaces places) :
    ShownAt places (xs.map (·.text.toList)) xs := by
  rw [ShownAt, List.forall₂_map_left_iff, List.forall₂_same]
  exact fun x hx => ⟨rfl, Decimal.isFixedPoint_text_iff (h x hx)⟩

theorem shownAt_rows {places : Nat} {rows : List Installment} {f : Installment → List Decimal}
    (h : ∀ row ∈ rows, ∀ x ∈ f row, x.HasPlaces places) :
    ShownAt places ((rows.flatMap f).map (·.text.toList)) (rows.flatMap f) := by
  apply shownAt_map
  intro x hx
  obtain ⟨row, hrow, hmem⟩ := List.mem_flatMap.1 hx
  exact h row hrow x hmem

variable {s : Schedule} {entry : CurrencyEntry}

theorem itemsTexts_eq (keys : List Text) (items : List Json) :
    Json.itemsTexts keys items = items.flatMap (·.textsUnder keys) := by
  induction items with
  | nil => rfl
  | cons item rest ih => rw [Json.itemsTexts, ih, List.flatMap_cons]

theorem textsUnder_entry (entry : CurrencyEntry) :
    entry.toJson.textsUnder Json.amountKeys = [] := by
  simp [CurrencyEntry.toJson, Json.textsUnder, Json.fieldsTexts, Json.amountKeys]

theorem textsUnder_row (row : Installment) : (RichView.row row).textsUnder Json.amountKeys =
    row.amounts.map fun x => (x.text : Text) := by
  cases hstart : row.start <;> simp [RichView.row, RichView.amount, hstart, Json.textsUnder,
    Json.fieldsTexts, Json.amountKeys, Installment.amounts]

theorem fieldsTexts_totals (s : Schedule) :
    Json.fieldsTexts Json.amountKeys (RichView.totals s) =
      s.totals.tail.map fun x => (x.text : Text) := by
  simp [RichView.totals, RichView.amount, Json.textsUnder, Json.fieldsTexts, Json.amountKeys,
    Schedule.totals]

theorem textsUnder_installment (code : Text) (row : Installment) :
    (SlimInstallment.ofRow code row).toJson.textsUnder Json.amountKeys =
      row.amounts.tail.map fun x => (x.text : Text) := by
  cases hstart : row.start <;> simp [SlimInstallment.ofRow, SlimInstallment.toJson, hstart,
    TaggedAmount.toJson, Json.textsUnder, Json.fieldsTexts, Json.amountKeys, Installment.amounts]

theorem amounts_rich (entry : CurrencyEntry) (s : Schedule) :
    (RichView.toJson ⟨entry, s⟩).amounts =
      (s.rows.flatMap (·.amounts) ++ s.totals.tail).map (·.text.toList) := by
  have htexts : (RichView.toJson ⟨entry, s⟩).textsUnder Json.amountKeys =
      (s.rows.flatMap (·.amounts) ++ s.totals.tail).map fun x => (x.text : Text) := by
    change entry.toJson.textsUnder _ ++ (Json.itemsTexts _ _ ++ Json.fieldsTexts _ _) = _
    rw [textsUnder_entry, itemsTexts_eq, fieldsTexts_totals, List.flatMap_map, List.nil_append,
      List.map_append, List.map_flatMap]
    congr 1
    exact List.flatMap_congr fun row _ => textsUnder_row row
  rw [Json.amounts, htexts, List.map_map]
  rfl

theorem amounts_slim (code : Text) (rows : List Installment) :
    (SlimView.toJson ⟨rows.map (.ofRow code)⟩).amounts =
      (rows.flatMap (·.amounts.tail)).map (·.text.toList) := by
  have htexts : (SlimView.toJson ⟨rows.map (.ofRow code)⟩).textsUnder Json.amountKeys =
      (rows.flatMap (·.amounts.tail)).map fun x => (x.text : Text) := by
    change Json.itemsTexts _ _ ++ [] = _
    rw [itemsTexts_eq, List.append_nil, List.map_map, List.flatMap_map, List.map_flatMap]
    exact List.flatMap_congr fun row _ => textsUnder_installment code row
  rw [Json.amounts, htexts, List.map_map]
  rfl

/-- Every view of a schedule shows amounts with the places of its currency. -/
structure Schedule.ShownAtScale (s : Schedule) (entry : CurrencyEntry) (symbol : Text) : Prop where
  rich : ∃ view, Shape.rich.assemble s entry = .ok view ∧
    ShownAt s.currency.places view.amounts (s.rows.flatMap (·.amounts) ++ s.totals.tail)
  slim : ∃ view, Shape.slim.assemble s entry = .ok view ∧
    ShownAt s.currency.places view.amounts (s.repayments.flatMap (·.amounts.tail))
  csv : ShownAt s.currency.places (amountCells ',' s.csv.toList) (s.rows.flatMap (·.amounts))
  table : ShownAt s.currency.places (amountCells '\t' s.table.chars) (s.rows.flatMap (·.shown))
  summary : ∃ shown,
    Schedule.summaryLabels.map (labelled? (s.summary symbol).chars) = shown.map some ∧
    ShownAt s.currency.places shown
      [s.principalDisbursed, s.interestExpected, s.totalRepayment, s.principalOutstanding]

namespace Engine

variable {engine : Engine} {terms : LoanTerms} {dueDates : List Date} {perYear : Decimal}

/-- In every view of a schedule that comes about, amounts are in plain notation with the places of
the currency up to six places; with more, exactly those that are not below one millionth are. -/
theorem compute_shownAtScale (h : (engine.compute terms dueDates perYear).outcome = .ok s)
    (hentry : entry.code = s.currency.code) (symbol : Text) : s.ShownAtScale entry symbol := by
  have hplaces := Schedule.forall_mem_amounts.1 (hasPlaces_of_compute h)
  obtain ⟨hcurrency, hcharges⟩ : s.currency = terms.currency ∧ s.charges.isZero := by
    obtain ⟨run, hs⟩ := exists_run h
    obtain ⟨_, -, rfl⟩ := schedule_eq_ok hs
    exact ⟨rfl, rfl⟩
  rw [← hcurrency] at hplaces
  obtain ⟨htotals, hrows⟩ := hplaces
  have hfinite : ∀ row ∈ s.rows, ∀ x ∈ row.amounts, x.isFinite :=
    fun row hrow x hx => (hrows row hrow x hx).1
  have hcheck : s.checkEntry entry = .ok () := if_pos hentry
  refine
    { rich := ⟨RichView.toJson ⟨{ entry with places := s.currency.places }, s⟩, ?_, ?_⟩
      slim := ⟨SlimView.toJson ⟨s.repayments.map (.ofRow entry.code)⟩, ?_, ?_⟩
      csv := ?_
      table := ?_
      summary := ⟨[s.principalDisbursed, s.interestExpected, s.totalRepayment,
        s.principalOutstanding].map (·.text.toList), ?_, ?_⟩ }
  · rw [Shape.assemble, RichView.assemble, hcheck]
    rfl
  · rw [amounts_rich, List.map_append]
    exact List.rel_append (shownAt_rows hrows)
      (shownAt_map fun x hx => htotals x (List.mem_of_mem_tail hx))
  · rw [Shape.assemble, SlimView.assemble, hcheck]
    rfl
  · rw [amounts_slim]
    exact shownAt_rows fun row hrow x hx =>
      hrows row (List.mem_filter.1 hrow).1 x (List.mem_of_mem_tail hx)
  · rw [Schedule.amountCells_csv hfinite]
    exact shownAt_rows hrows
  · rw [Schedule.amountCells_table hfinite]
    exact shownAt_rows fun row hrow x hx =>
      hrows row hrow x (Installment.mem_amounts_of_shown hx)
  · rw [Schedule.labelled_summary hcharges (fun x hx => (htotals x hx).1), List.map_map]
    rfl
  · apply shownAt_map
    simp only [Schedule.totals, List.forall_mem_cons] at htotals ⊢
    tauto

def mites : LoanTerms :=
  { longLoan with
    principal := .ofMinor ⟨"USD", 7, by decide⟩ false 15
    annualRate := .ofNat 0
    repayments := 1 }

set_option maxRecDepth 10000 in
theorem exists_schedule_mites : ∃ s,
    (({} : Engine).compute mites [longLoan.disbursed] (.ofNat 1)).outcome = .ok s ∧
      s.currency = mites.currency ∧ s.rows.flatMap (·.shown) =
        [.finite false 15 (-7), .finite false 0 (-7), .finite false 0 (-7), .finite false 0 (-7),
          .finite false 15 (-7), .finite false 15 (-7), .finite false 0 (-7),
          .finite false 15 (-7), .finite false 0 (-7)] := by
  have hshown : (({} : Engine).compute mites [longLoan.disbursed] (.ofNat 1)).outcome.toOption.map
      (fun s => (s.currency, s.rows.flatMap (·.shown))) = some (mites.currency,
        [.finite false 15 (-7), .finite false 0 (-7), .finite false 0 (-7), .finite false 0 (-7),
          .finite false 15 (-7), .finite false 15 (-7), .finite false 0 (-7),
          .finite false 15 (-7), .finite false 0 (-7)]) := by
    decide +kernel
  cases houtcome : (({} : Engine).compute mites [longLoan.disbursed] (.ofNat 1)).outcome with
  | error r =>
    rw [houtcome] at hshown
    cases hshown
  | ok s =>
    rw [houtcome] at hshown
    simp only [Except.toOption, Option.map_some, Option.some.injEq, Prod.mk.injEq] at hshown
    exact ⟨s, rfl, hshown⟩

theorem compute_shownAtScale_mites : ∃ s,
    (({} : Engine).compute mites [longLoan.disbursed] (.ofNat 1)).outcome = .ok s ∧
      s.ShownAtScale ⟨"USD", "US Dollar", 2, "$", "currency.USD"⟩ "$" := by
  obtain ⟨s, h, hcurrency, -⟩ := exists_schedule_mites
  exact ⟨s, h, compute_shownAtScale h (by rw [hcurrency]; rfl) _⟩

theorem not_isFixedPoint_mites : ∃ s,
    (({} : Engine).compute mites [longLoan.disbursed] (.ofNat 1)).outcome = .ok s ∧
      s.currency.places = 7 ∧ ∃ cs ∈ amountCells '\t' s.table.chars,
        cs = ['0', 'E', '-', '7'] ∧ ¬IsFixedPoint 7 cs := by
  obtain ⟨s, h, hcurrency, hshown⟩ := exists_schedule_mites
  have hplaces := Schedule.forall_mem_amounts.1 (hasPlaces_of_compute h)
  have htable := Schedule.amountCells_table fun row hrow x hx => (hplaces.2 row hrow x hx).1
  rw [hshown] at htable
  refine ⟨s, h, by rw [hcurrency]; rfl, ['0', 'E', '-', '7'], ?_, rfl, fun hfixed => ?_⟩
  · rw [htable]
    decide +kernel
  · exact hfixed.not_mem (by decide)

end Engine
end AddOnLoan
