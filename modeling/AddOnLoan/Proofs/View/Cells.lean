import AddOnLoan.Proofs.Calendar.Text
import AddOnLoan.Proofs.Schedule.Reconciliation
import AddOnLoan.View.Csv
import AddOnLoan.View.Table

namespace AddOnLoan

/-- The lines of a text, each with a line feed behind it, or a carriage return and a line feed. -/
def linesOf (cs : List Char) : List (List Char) :=
  ((cs.filter (· != '\r')).splitOn '\n').dropLast

/-- The amounts in a table: the cells that are not empty behind number and dates, in all lines but
the heading. -/
def amountCells (separator : Char) (cs : List Char) : List (List Char) :=
  ((linesOf cs).map (·.splitOn separator)).tail.flatMap fun row => (row.drop 3).filter (· != [])

/-- What stands behind a label, in the last line that begins with it. -/
def labelled? (cs : List Char) (label : String) : Option (List Char) :=
  (linesOf cs).reverse.findSome? fun line =>
    if label.toList.isPrefixOf line then some (line.drop label.length) else none

def isCellChar (c : Char) : Bool := !(c == ',' || c == '\t' || c == '"' || c == '\r' || c == '\n')

def IsCell (s : String) : Prop := ∀ c ∈ s.toList, isCellChar c

theorem IsCell.not_mem {s : String} (h : IsCell s) {c : Char} (hc : isCellChar c = false) :
    c ∉ s.toList := by
  intro hmem
  rw [h c hmem] at hc
  cases hc

theorem isCellChar_of_isNumeral {c : Char} (h : isNumeral c) : isCellChar c := by
  rw [isCellChar, Bool.not_eq_true', ← Bool.not_eq_true]
  intro hsep
  simp only [Bool.or_eq_true, beq_iff_eq] at hsep
  rcases hsep with (((rfl | rfl) | rfl) | rfl) | rfl <;> cases h

theorem isCell_text {x : Decimal} (hx : x.isFinite) : IsCell x.text := fun c hc =>
  isCellChar_of_isNumeral (Decimal.isNumeral_text hx c hc)

theorem isCell_natText (n : Nat) : IsCell (natText n) := by
  intro c hc
  rw [natText, String.toList_ofList] at hc
  exact isCellChar_of_isNumeral (isNumeral_digits n c hc)

theorem isCell_intText (n : Int) : IsCell (intText n) := by
  intro c hc
  rw [intText] at hc
  split at hc
  · rw [String.toList_append, List.mem_append] at hc
    rcases hc with hc | hc
    · rw [show c = '-' by simpa using hc]
      rfl
    · exact isCell_natText _ c hc
  · exact isCell_natText _ c hc

theorem isCell_iso (d : Date) : IsCell d.iso := by
  intro c hc
  rw [Date.iso, String.toList_ofList] at hc
  exact isCellChar_of_isNumeral (d.isNumeral_isoChars c hc)

theorem isCell_start (start : Option Date) : IsCell ((start.map (·.iso)).getD "") := by
  cases start with
  | none => exact List.forall_mem_nil _
  | some d => exact isCell_iso d

variable {front cs ending : List Char} {lines : List (List Char)}

theorem filter_lines (hending : ending.filter (· != '\r') = ['\n'])
    (h : ∀ line ∈ lines, '\r' ∉ line) :
    (lines.flatMap (· ++ ending)).filter (· != '\r') = lines.flatMap (· ++ ['\n']) := by
  induction lines with
  | nil => rfl
  | cons line lines ih =>
    rw [List.forall_mem_cons] at h
    have hline : line.filter (· != '\r') = line :=
      List.filter_eq_self.2 fun c hc => bne_iff_ne.2 (ne_of_mem_of_not_mem hc h.1)
    rw [List.flatMap_cons, List.filter_append, List.filter_append, hline, hending, ih h.2,
      List.flatMap_cons]

theorem splitOn_lines (h : ∀ line ∈ lines, '\n' ∉ line) :
    (lines.flatMap (· ++ ['\n'])).splitOn '\n' = lines ++ [[]] := by
  induction lines with
  | nil => rfl
  | cons line lines ih =>
    rw [List.forall_mem_cons] at h
    rw [List.flatMap_cons, List.append_assoc, List.singleton_append,
      List.splitOn_append_cons_self_of_not_mem h.1, ih h.2, List.cons_append]

def IsLine (line : List Char) : Prop := '\n' ∉ line ∧ '\r' ∉ line

theorem linesOf_lines (hending : ending.filter (· != '\r') = ['\n'])
    (h : ∀ line ∈ lines, IsLine line) : linesOf (lines.flatMap (· ++ ending)) = lines := by
  rw [linesOf, filter_lines hending fun line hline => (h line hline).2,
    splitOn_lines fun line hline => (h line hline).1, List.dropLast_concat]

theorem linesOf_append (front : List Char) (h : ∀ line ∈ lines, IsLine line) :
    linesOf (front ++ '\n' :: lines.flatMap (· ++ ['\n'])) =
      (front.filter (· != '\r')).splitOn '\n' ++ lines := by
  rw [linesOf, List.filter_append, List.filter_cons_of_pos rfl,
    filter_lines rfl fun line hline => (h line hline).2, List.splitOn_append_cons_self,
    splitOn_lines fun line hline => (h line hline).1, ← List.append_assoc, List.dropLast_concat]

theorem labelled?_eq {before after : List (List Char)} {label : String} {shown : List Char}
    (h : linesOf cs = before ++ (label.toList ++ shown) :: after)
    (hafter : ∀ line ∈ after, label.toList.isPrefixOf line = false) :
    labelled? cs label = some shown := by
  have hnone : (after.reverse.findSome? fun line =>
      if label.toList.isPrefixOf line then some (line.drop label.length) else none) = none := by
    rw [List.findSome?_eq_none_iff]
    intro line hline
    rw [hafter line (List.mem_reverse.1 hline), if_neg nofun]
  have hprefix : label.toList.isPrefixOf (label.toList ++ shown) := by
    rw [List.isPrefixOf_iff_prefix]
    exact List.prefix_append _ _
  rw [labelled?, h, List.reverse_append, List.reverse_cons, List.append_assoc,
    List.findSome?_append, hnone, Option.none_or, List.singleton_append, List.findSome?_cons,
    if_pos hprefix, ← String.length_toList, List.drop_left]

theorem not_mem_intercalate {c separator : Char} (hne : c ≠ separator)
    (h : ∀ cell ∈ lines, c ∉ cell) : c ∉ [separator].intercalate lines := by
  induction lines with
  | nil => exact List.not_mem_nil
  | cons cell rest ih =>
    rw [List.forall_mem_cons] at h
    cases rest with
    | nil => simpa using h.1
    | cons next rest =>
      rw [List.intercalate_cons_cons]
      simp only [List.mem_append, List.mem_singleton, not_or]
      exact ⟨⟨h.1, hne⟩, ih h.2⟩

def rowLine (separator : Char) (row : List String) : List Char :=
  [separator].intercalate (row.map (·.toList))

theorem isLine_rowLine {separator : Char} (hseparator : separator = ',' ∨ separator = '\t')
    {row : List String} (h : ∀ cell ∈ row, IsCell cell) : IsLine (rowLine separator row) := by
  have hcells : ∀ c, isCellChar c = false → ∀ cell ∈ row.map (·.toList), c ∉ cell := by
    intro c hc
    rw [List.forall_mem_map]
    exact fun cell hcell => (h cell hcell).not_mem hc
  constructor
  · apply not_mem_intercalate _ (hcells '\n' rfl)
    rcases hseparator with rfl | rfl <;> decide
  · apply not_mem_intercalate _ (hcells '\r' rfl)
    rcases hseparator with rfl | rfl <;> decide

theorem splitOn_rowLine {separator : Char} (hseparator : separator = ',' ∨ separator = '\t')
    {row : List String} (h : ∀ cell ∈ row, IsCell cell) (hne : row ≠ []) :
    (rowLine separator row).splitOn separator = row.map (·.toList) := by
  apply List.splitOn_intercalate
  · rw [List.forall_mem_map]
    intro cell hcell
    apply (h cell hcell).not_mem
    rcases hseparator with rfl | rfl <;> rfl
  · rwa [ne_eq, List.map_eq_nil_iff]

theorem amountCells_eq {separator : Char} (hseparator : separator = ',' ∨ separator = '\t')
    {heading : List String} {rows : List (List String)}
    (h : ∀ row ∈ heading :: rows, ∀ cell ∈ row, IsCell cell) (hne : ∀ row ∈ rows, row ≠ [])
    (hending : ending.filter (· != '\r') = ['\n'])
    (hcs : cs = ((heading :: rows).map (rowLine separator)).flatMap (· ++ ending)) :
    amountCells separator cs =
      rows.flatMap fun row => ((row.map (·.toList)).drop 3).filter (· != []) := by
  have hlines : linesOf cs = (heading :: rows).map (rowLine separator) := by
    rw [hcs]
    apply linesOf_lines hending
    rw [List.forall_mem_map]
    exact fun row hrow => isLine_rowLine hseparator (h row hrow)
  rw [amountCells, hlines, List.map_map, List.map_cons, List.tail_cons, List.flatMap_map]
  refine List.flatMap_congr fun row hrow => ?_
  rw [Function.comp_apply, splitOn_rowLine hseparator (h row (List.mem_cons_of_mem _ hrow))
    (hne row hrow)]

theorem filter_amounts {xs : List Decimal} (h : ∀ x ∈ xs, x.isFinite) :
    (xs.map (·.text.toList)).filter (· != []) = xs.map (·.text.toList) := by
  rw [List.filter_eq_self, List.forall_mem_map]
  exact fun x hx => bne_iff_ne.2 (Decimal.text_ne_nil (h x hx))

theorem Csv.line_toList {fields : List String} (h : ∀ field ∈ fields, IsCell field) :
    (Csv.line fields).toList = rowLine ',' fields ++ ['\r', '\n'] := by
  have hfields : (fields.map fun field => String.ofList (Csv.field field.toList)) = fields := by
    conv_rhs => rw [← List.map_id fields]
    refine List.map_congr_left fun field hfield => ?_
    have hquotes : Csv.needsQuotes field.toList = false := by
      rw [Csv.needsQuotes, List.any_eq_false]
      intro c hc
      have hcell := h field hfield c hc
      simp only [isCellChar, Bool.not_eq_true', Bool.or_eq_false_iff] at hcell
      simp [hcell]
    rw [Csv.field, hquotes, if_neg nofun, String.ofList_toList]
    rfl
  rw [Csv.line, hfields, String.toList_append, String.toList_intercalate, rowLine]
  rfl

/-- The amounts of a row that a table for people shows: what is paid out only with the payout. -/
def Installment.shown (row : Installment) : List Decimal :=
  if row.isDisbursement then row.amounts else row.amounts.tail

theorem Installment.mem_amounts_of_shown {row : Installment} {x : Decimal} (h : x ∈ row.shown) :
    x ∈ row.amounts := by
  rw [shown] at h
  split at h
  · exact h
  · exact List.mem_of_mem_tail h

namespace Schedule

variable {s : Schedule}

theorem isCell_row {row : Installment} (h : ∀ x ∈ row.amounts, x.isFinite) :
    (∀ cell ∈ csvFields row, IsCell cell) ∧ ∀ cell ∈ cells row, IsCell cell := by
  simp only [Installment.amounts, List.forall_mem_cons] at h
  obtain ⟨hdisbursed, hprincipal, hinterest, htotal, houtstanding, -⟩ := h
  simp only [csvFields, cells, List.forall_mem_cons]
  refine ⟨⟨isCell_natText _, isCell_start _, isCell_iso _, isCell_text hdisbursed,
    isCell_text hprincipal, isCell_text hinterest, isCell_text htotal, isCell_text houtstanding,
    List.forall_mem_nil _⟩, isCell_natText _, isCell_start _, isCell_iso _, ?_,
    isCell_text hprincipal, isCell_text hinterest, isCell_text htotal, isCell_text houtstanding,
    List.forall_mem_nil _⟩
  split
  · exact isCell_text hdisbursed
  · exact List.forall_mem_nil _

theorem isCell_csv (h : ∀ row ∈ s.rows, ∀ x ∈ row.amounts, x.isFinite) :
    ∀ row ∈ csvHeader :: s.rows.map csvFields, ∀ cell ∈ row, IsCell cell := by
  rw [List.forall_mem_cons, List.forall_mem_map]
  refine ⟨?_, fun row hrow => (isCell_row (h row hrow)).1⟩
  simp [csvHeader, IsCell, isCellChar]

theorem csv_toList (h : ∀ row ∈ s.rows, ∀ x ∈ row.amounts, x.isFinite) :
    s.csv.toList = ((csvHeader :: s.rows.map csvFields).map (rowLine ',')).flatMap
      (· ++ ['\r', '\n']) := by
  rw [csv, csvLines, String.toList_join, List.flatMap_map, List.flatMap_map]
  exact List.flatMap_congr fun row hrow => Csv.line_toList (isCell_csv h row hrow)

theorem amountCells_csv (h : ∀ row ∈ s.rows, ∀ x ∈ row.amounts, x.isFinite) :
    amountCells ',' s.csv.toList =
      (s.rows.flatMap (·.amounts)).map (·.text.toList) := by
  rw [amountCells_eq (.inl rfl) (isCell_csv h) (by simp [csvFields]) rfl (csv_toList h),
    List.flatMap_map, List.map_flatMap]
  refine List.flatMap_congr fun row hrow => ?_
  exact filter_amounts (h row hrow)

theorem amountCells_table (h : ∀ row ∈ s.rows, ∀ x ∈ row.amounts, x.isFinite) :
    amountCells '\t' s.table.chars =
      (s.rows.flatMap (·.shown)).map (·.text.toList) := by
  have hcells : ∀ row ∈ columns :: s.rows.map cells, ∀ cell ∈ row, IsCell cell := by
    rw [List.forall_mem_cons, List.forall_mem_map]
    refine ⟨?_, fun row hrow => (isCell_row (h row hrow)).2⟩
    simp [columns, IsCell, isCellChar]
  have htable : s.table.chars =
      ((columns :: s.rows.map cells).map (rowLine '\t')).flatMap (· ++ ['\n']) := by
    rw [table, tableLines, Text.chars_ofLines, List.flatMap_map, List.flatMap_map]
    refine List.flatMap_congr fun row _ => ?_
    change ("\t".intercalate row).toList ++ _ = _
    rw [String.toList_intercalate, rowLine]
    rfl
  rw [amountCells_eq (.inr rfl) hcells (by simp [cells]) rfl htable, List.flatMap_map,
    List.map_flatMap]
  refine List.flatMap_congr fun row hrow => ?_
  rw [Installment.shown]
  split
  · next hpayout =>
    simp only [cells, if_pos hpayout]
    exact filter_amounts (h row hrow)
  · next hpayout =>
    simp only [cells, if_neg hpayout]
    exact filter_amounts fun x hx => h row hrow x (List.mem_of_mem_tail hx)

def summaryLabels : List String := [
  "Principal disbursed   : ",
  "Total interest        : ",
  "Total repayment       : ",
  "Principal outstanding : "]

def sumLines (s : Schedule) : List (List Char) := [
  "Principal disbursed   : ".toList ++ s.principalDisbursed.text.toList,
  "Total interest        : ".toList ++ s.interestExpected.text.toList,
  "Total repayment       : ".toList ++ s.totalRepayment.text.toList,
  "Principal outstanding : ".toList ++ s.principalOutstanding.text.toList,
  "Installments          : ".toList ++ (natText s.repayments.length).toList,
  "Loan term (days)      : ".toList ++ (intText s.termInDays).toList,
  rule.toList]

theorem chars_summary (hcharges : s.charges.isZero) (symbol : Text) :
    (s.summary symbol).chars =
      ("Summary".toList ++ '\n' :: rule.toList ++ '\n' :: (s.currencyLine symbol).chars) ++
        '\n' :: s.sumLines.flatMap (· ++ ['\n']) := by
  have hline : ∀ label text : String,
      ((label : Text) ++ (text : Text)).chars = label.toList ++ text.toList :=
    fun label text => String.toList_append
  have hplain : ∀ line : String, (line : Text).chars = line.toList := fun _ => rfl
  simp only [summary, summaryLines, if_pos hcharges, Text.chars_ofLines, sumLines,
    List.append_nil, List.cons_append, List.nil_append, List.flatMap_cons, List.flatMap_nil, hline,
    hplain, List.append_assoc]

theorem isLine_append {label text : String} (hlabel : IsCell label) (htext : IsCell text) :
    IsLine (label.toList ++ text.toList) := by
  simp only [IsLine, List.mem_append, not_or]
  exact ⟨⟨hlabel.not_mem rfl, htext.not_mem rfl⟩, hlabel.not_mem rfl, htext.not_mem rfl⟩

theorem toList_rule : rule.toList = '-' :: List.replicate 71 '-' := String.toList_ofList

theorem isLine_sumLines (hfinite : ∀ x ∈ s.totals, x.isFinite) :
    ∀ line ∈ s.sumLines, IsLine line := by
  simp only [totals, List.forall_mem_cons] at hfinite
  obtain ⟨-, hdisbursed, -, houtstanding, hinterest, -, hrepayment, -⟩ := hfinite
  simp only [sumLines, List.forall_mem_cons]
  refine ⟨isLine_append ?_ (isCell_text hdisbursed), isLine_append ?_ (isCell_text hinterest),
    isLine_append ?_ (isCell_text hrepayment), isLine_append ?_ (isCell_text houtstanding),
    isLine_append ?_ (isCell_natText _), isLine_append ?_ (isCell_intText _), ?_,
    List.forall_mem_nil _⟩
  case refine_7 =>
    simp [IsLine, toList_rule]
  all_goals simp [IsCell, isCellChar]

/-- Behind its labels the summary shows the amounts, whatever currency and symbol are. Charges have
no line, since there are none. -/
theorem labelled_summary (hcharges : s.charges.isZero) (hfinite : ∀ x ∈ s.totals, x.isFinite)
    (symbol : Text) : summaryLabels.map (labelled? (s.summary symbol).chars) =
      [s.principalDisbursed, s.interestExpected, s.totalRepayment, s.principalOutstanding].map
        fun x => some x.text.toList := by
  obtain ⟨before, hread⟩ :
      ∃ before, linesOf (s.summary symbol).chars = before ++ s.sumLines :=
    ⟨_, (congrArg linesOf (chars_summary hcharges symbol)).trans
      (linesOf_append _ (isLine_sumLines hfinite))⟩
  have hshown : ∀ k label shown after, s.sumLines.drop k = (label.toList ++ shown) :: after →
      (∀ line ∈ after, label.toList.isPrefixOf line = false) →
      labelled? (s.summary symbol).chars label = some shown := by
    intro k label shown after hdrop hafter
    rw [← List.take_append_drop k s.sumLines, ← List.append_assoc, hdrop] at hread
    exact labelled?_eq hread hafter
  -- no label begins a line behind its own
  have hdisbursed := hshown 0 "Principal disbursed   : " _ _ rfl
    (by simp [List.isPrefixOf, toList_rule])
  have hinterest := hshown 1 "Total interest        : " _ _ rfl
    (by simp [List.isPrefixOf, toList_rule])
  have hrepayment := hshown 2 "Total repayment       : " _ _ rfl
    (by simp [List.isPrefixOf, toList_rule])
  have houtstanding := hshown 3 "Principal outstanding : " _ _ rfl
    (by simp [List.isPrefixOf, toList_rule])
  simp only [summaryLabels, List.map_cons, List.map_nil, hdisbursed, hinterest, hrepayment,
    houtstanding]

end Schedule
end AddOnLoan
