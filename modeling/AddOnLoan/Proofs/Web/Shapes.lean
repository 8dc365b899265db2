import AddOnLoan.Proofs.Web.Answers
import AddOnLoan.Proofs.Web.Reading

namespace AddOnLoan
namespace Json

def member? (key : String) : Json → Option Json
  | .object fields => field? fields key
  | _ => none

def items? : Json → Option (List Json)
  | .array items => some items
  | _ => none

def tagged? (code period : Json) (key : String) : Option Json := do
  return .object [("currencyCode", code), ("amount", ← period.member? key)]

def installment? (code period : Json) : Option Json := do
  return .object [
    ("installmentNumber", ← period.member? "period"),
    ("periodStart", ← period.member? "fromDate"),
    ("periodEnd", ← period.member? "dueDate"),
    ("principalDue", ← tagged? code period "principalDue"),
    ("interestDue", ← tagged? code period "interestDue"),
    ("totalInstallmentDue", ← tagged? code period "totalDue"),
    ("outstandingBalance", ← tagged? code period "principalLoanBalanceOutstanding")]

/-- Whether a period of a full schedule is the payout, which has the number zero. -/
def isPayout (period : Json) : Bool :=
  match period.member? "period" with
  | some (.int n) => n == 0
  | _ => false

/-- The short schedule that a full one holds: all periods but the payout, with every amount in the
currency of the full one. -/
def short? (rich : Json) : Option Json := do
  let code ← (← rich.member? "currency").member? "code"
  let periods ← (← rich.member? "periods").items?
  let installments ← (periods.filter (!·.isPayout)).mapM (installment? code)
  return .object [("scheduledLoanInstallments", .array installments)]

end Json

variable {s : Schedule} {entry : CurrencyEntry}

theorem installment?_row (code : Text) (row : Installment) :
    Json.installment? (.text code) (RichView.row row) =
      some (SlimInstallment.ofRow code row).toJson := rfl

theorem isPayout_row (row : Installment) :
    (RichView.row row).isPayout = row.isDisbursement := by
  change ((row.number : Int) == 0) = (row.number == 0)
  rw [Bool.eq_iff_iff, beq_iff_eq, beq_iff_eq, Int.natCast_eq_zero]

/-- The installments of the full view are those of the short one: in order, none of them lost and
none added. -/
theorem mapM_installment? (code : Text) (rows : List Installment) :
    ((rows.map RichView.row).filter (!·.isPayout)).mapM (Json.installment? (.text code)) =
      some ((rows.filter (!·.isDisbursement)).map
        fun row => (SlimInstallment.ofRow code row).toJson) := by
  induction rows with
  | nil => rfl
  | cons row rows ih =>
    rw [List.map_cons, List.filter_cons, List.filter_cons, isPayout_row]
    cases row.isDisbursement with
    | true => exact ih
    | false => simp [ih, installment?_row]

theorem short?_toJson (s : Schedule) (entry : CurrencyEntry) (places : Nat) :
    (RichView.toJson ⟨{ entry with places := places }, s⟩).short? =
      some (SlimView.toJson ⟨s.repayments.map (.ofRow entry.code)⟩) := by
  change (((s.rows.map RichView.row).filter (!·.isPayout)).mapM
    (Json.installment? (.text entry.code)) >>= fun installments =>
      some (Json.object [("scheduledLoanInstallments", .array installments)])) = _
  rw [mapM_installment?, SlimView.toJson, List.map_map]
  rfl

theorem exists_views (h : entry.code = s.currency.code) : ∃ rich slim,
    Shape.rich.assemble s entry = .ok rich ∧ Shape.slim.assemble s entry = .ok slim ∧
      rich.short? = some slim := by
  have hcheck : s.checkEntry entry = .ok () := if_pos h
  refine ⟨_, _, ?_, ?_, short?_toJson s entry s.currency.places⟩
  · rw [Shape.assemble, RichView.assemble, hcheck]
    rfl
  · rw [Shape.assemble, SlimView.assemble, hcheck]
    rfl

/-- What becomes of a request in both shapes: the same fault, the same answer other than a
schedule, or two schedules of which the short one is read off the full one. -/
inductive SameFate : Except Refusal Response → Except Refusal Response → Prop
  | fault (r : Refusal) : SameFate (.error r) (.error r)
  | answer {response : Response} (h : response.status ≠ 200) :
    SameFate (.ok response) (.ok response)
  | schedule {rich slim : Json} (h : rich.short? = some slim) :
    SameFate (.ok ⟨200, rich⟩) (.ok ⟨200, slim⟩)

theorem status_problem_ne (text : Text) : (Response.problem text).status ≠ 200 := by
  change (400 : Nat) ≠ 200
  decide

def Request.inShape (shape : Shape) (rest : List (Text × Text)) (body : RequestBody) : Request where
  query := ("shape", shape.name) :: rest
  body := body

variable {rest : List (Text × Text)} {body : RequestBody} {shape : Shape}

theorem Request.ofName?_inShape :
    Shape.ofName? (inShape shape rest body).shape = some shape := by
  cases shape <;> rfl

theorem Request.check_inShape (shape : Shape) :
    (inShape shape rest body).check = (⟨rest, body⟩ : Request).check := by
  have hshape : Text.checkWritable (fun _ => false) ("shape" : Text) = .ok () := rfl
  have hname : Text.checkWritable (fun _ => false) (shape.name : Text) = .ok () := by
    cases shape <;> rfl
  simp only [check, inShape, List.forM, hshape, hname, ok_bind]

namespace Settings

variable {settings : Settings} {payload : Payload}

theorem code_of_scheduleOf (h : settings.scheduleOf payload = .ok (s, entry)) :
    entry.code = s.currency.code := by
  obtain ⟨⟨terms, entry'⟩, hterms, h⟩ := bind_eq_ok_iff.1 h
  obtain ⟨s', hgenerate, h⟩ := bind_eq_ok_iff.1 h
  cases h
  rw [Payload.code_of_terms hterms, Engine.currency_of_generate hgenerate]

theorem sameFate_respondTo (settings : Settings) (payload : Payload) :
    SameFate (settings.respondTo .rich payload) (settings.respondTo .slim payload) := by
  unfold respondTo
  cases h : settings.scheduleOf payload with
  | ok found =>
    obtain ⟨rich, slim, hrich, hslim, hshort⟩ := exists_views (code_of_scheduleOf h)
    simp only [hrich, hslim]
    exact .schedule hshort
  | error r =>
    dsimp only
    split
    · exact .answer (status_problem_ne _)
    · exact .fault r

theorem sameFate_answer (settings : Settings) (rest : List (Text × Text)) (body : RequestBody) :
    SameFate (settings.answer (.inShape .rich rest body))
      (settings.answer (.inShape .slim rest body)) := by
  simp only [answer, Request.ofName?_inShape]
  change SameFate (body.read settings.largestBody settings.deepestBody >>= _)
    (body.read settings.largestBody settings.deepestBody >>= _)
  cases body.read settings.largestBody settings.deepestBody with
  | error r => exact .fault r
  | ok value =>
    rw [ok_bind, ok_bind]
    split
    · exact sameFate_respondTo settings _
    · exact .answer (status_problem_ne _)

theorem status_respondToFault_ne {fault : Refusal} {response : Response}
    (h : settings.respondToFault fault = .ok response) : response.status ≠ 200 := by
  unfold respondToFault at h
  split at h
  · cases h
    exact show (413 : Nat) ≠ 200 by decide
  · split at h
    · cases h
    · cases h
      exact show (500 : Nat) ≠ 200 by decide

theorem sameFate_respondToFault (settings : Settings) (fault : Refusal) :
    SameFate (settings.respondToFault fault) (settings.respondToFault fault) := by
  cases h : settings.respondToFault fault with
  | error r => exact .fault r
  | ok response => exact .answer (status_respondToFault_ne h)

structure ShapesAgree (settings : Settings) : Prop where
  respond : ∀ rest body, SameFate (settings.respond (.inShape .rich rest body))
    (settings.respond (.inShape .slim rest body))
  assemble : ∀ (payload : Payload) (s : Schedule) (entry : CurrencyEntry) (shape : Shape),
    settings.scheduleOf payload = .ok (s, entry) → ∃ view, shape.assemble s entry = .ok view

/-- Under all settings, a request has the same fate in both shapes, and once there is a schedule no
view of it is refused, however the currency was written and whatever places were asked for. -/
theorem shapes_agree (settings : Settings) : settings.ShapesAgree := by
  refine ⟨fun rest body => ?_, fun payload s entry shape h =>
    shape.exists_assemble (code_of_scheduleOf h)⟩
  rw [respond, respond, Request.check_inShape, Request.check_inShape]
  cases (⟨rest, body⟩ : Request).check with
  | error r => exact .fault r
  | ok u =>
    rw [ok_bind, ok_bind]
    have hanswer := sameFate_answer settings rest body
    generalize settings.answer (.inShape .rich rest body) = rich at hanswer ⊢
    generalize settings.answer (.inShape .slim rest body) = slim at hanswer ⊢
    cases hanswer with
    | fault r => exact sameFate_respondToFault settings r
    | answer h => exact .answer h
    | schedule h => exact .schedule h

def spelledRequest : RequestBody :=
  .text (some "application/json") ("\x7b\"principal\": \"1000\", " ++
    "\"annualInterestRate\": \"10\", \"disbursementDate\": \"2024-01-01\", " ++
    "\"numberOfRepayments\": 3, \"currency\": \" usd\", \"digits\": 3\x7d")

set_option maxRecDepth 10000 in
theorem shapes_agree_spelled : ∃ rich slim,
    ({} : Settings).respond (.inShape .rich [] spelledRequest) = .ok ⟨200, rich⟩ ∧
      ({} : Settings).respond (.inShape .slim [] spelledRequest) = .ok ⟨200, slim⟩ ∧
      rich.short? = some slim := by
  have hstatus : (({} : Settings).respond (.inShape .rich [] spelledRequest)).toOption.map
      (·.status) = some 200 := by decide +kernel
  have hagree := (shapes_agree {}).respond [] spelledRequest
  generalize ({} : Settings).respond (.inShape .rich [] spelledRequest) = x at hstatus hagree ⊢
  generalize ({} : Settings).respond (.inShape .slim [] spelledRequest) = y at hagree ⊢
  cases hagree with
  | fault r => cases hstatus
  | answer h => exact absurd (Option.some.inj hstatus) h
  | schedule h => exact ⟨_, _, rfl, rfl, h⟩

end Settings
end AddOnLoan
