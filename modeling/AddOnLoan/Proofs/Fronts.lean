import AddOnLoan.Proofs.CommandLine.Terms
import AddOnLoan.Proofs.Entry
import AddOnLoan.Proofs.Json.RoundTrip
import AddOnLoan.Proofs.Web.Shapes

namespace AddOnLoan
namespace Payload

variable {payload : Payload} {name : String} {t : Text} {n : Int}

theorem wholeNumberField_of_int (h : Json.field? payload name = some (.int n))
    (otherwise : Option Int) : payload.wholeNumberField name otherwise = .ok n := by
  unfold wholeNumberField
  rw [h]
  cases otherwise <;> rfl

theorem wholeNumberField_of_none (h : Json.field? payload name = none) :
    payload.wholeNumberField name (some n) = .ok n := by
  unfold wholeNumberField
  rw [h]

theorem exists_requiredText_iff {f : Text → Except InputError α} {a : α}
    (h : Json.field? payload name = some (.text t)) (hf : f t = .ok a → t.strip.isEmpty = false) :
    (∃ shown, payload.requiredText name = .ok shown ∧ f shown = .ok a) ↔ f t = .ok a := by
  have hread : payload.requiredText name =
      if t.strip.isEmpty then .error (.missingField name) else .ok t := by
    rw [requiredText, h]
    rfl
  rw [hread]
  constructor
  · rintro ⟨shown, hshown, ha⟩
    split at hshown
    · cases hshown
    · cases hshown
      exact ha
  · intro ha
    exact ⟨t, if_neg (by rw [hf ha]; exact Bool.false_ne_true), ha⟩

theorem optional_of_text {text : Option Text} (h : Json.field? payload name = text.map .text) :
    payload.optional name = (givenText text).map .text := by
  rw [optional, h]
  cases text with
  | none => rfl
  | some t =>
    rw [Option.map_some, Option.filter_some, givenText, Option.filter_some, Json.isBlankValue]
    split <;> rfl

theorem optionalDate_of_text {text : Option Text} (h : Json.field? payload name = text.map .text) :
    payload.optionalDate name = (givenText text).mapM Entry.dateText := by
  rw [optionalDate, optional_of_text h]
  cases givenText text <;> rfl

theorem optionalDate_of_none (h : Json.field? payload name = none) :
    payload.optionalDate name = .ok none := by
  rw [optionalDate, optional, h]
  rfl

theorem checkRepayments_of_le {most : Int} (h : n ≤ most) :
    checkRepayments n (.int most) = .ok () := by
  have hbelow : (Json.int most).isBelow? n = some false :=
    congrArg some (decide_eq_false (not_lt.2 h))
  rw [checkRepayments, hbelow]

theorem entry_of_text (h : Json.field? payload "currency" = some (.text t))
    (hnamed : t.isEmpty = false) (defaultCurrency : Text) :
    payload.entry defaultCurrency = Entry.currency (.text t) := by
  have hoptional : payload.optional "currency" = some (.text t) := by
    rw [optional, h, Option.filter_some, Json.isBlankValue, hnamed]
    rfl
  rw [entry, hoptional]
  rfl

theorem digits_of_int {digits : Option Int}
    (h : Json.field? payload "digits" = digits.map .int) : payload.digits = .ok digits := by
  unfold Payload.digits
  rw [h]
  cases digits <;> rfl

theorem wholeNumberField_of_option {term : Option Int}
    (h : Json.field? payload name = term.map .int) (n : Int) :
    payload.wholeNumberField name (some n) = .ok (term.getD n) := by
  cases term with
  | none => exact wholeNumberField_of_none h
  | some k => exact wholeNumberField_of_int h _

end Payload

namespace TermOptions

/-- The fields of a request in which the values of options are given. What is not given is left
out, and so is the date that there is no option for. -/
def fields (o : TermOptions) : List (String × Option Json) := [
  ("principal", some o.principal),
  ("annualInterestRate", some (.text o.rate)),
  ("disbursementDate", some (.text o.disbursementDate)),
  ("numberOfRepayments", some (.int o.repayments)),
  ("repaymentEvery", some (.int o.every)),
  ("repaymentFrequencyType", some (.text o.frequency)),
  ("loanTermFrequency", o.loanTerm.map .int),
  ("loanTermFrequencyType", o.loanTermType.map .text),
  ("firstRepaymentDate", o.firstRepaymentDate.map .text),
  ("interestCalculatedFrom", none),
  ("currency", some o.currency),
  ("digits", o.digits.map .int)]

def given (o : TermOptions) : Payload := Json.givenFields o.fields

/-- Options that mean the same to both fronts: there is no letter for thousands or millions behind
the amount, a currency is named, and not more repayments are asked for than are served. -/
structure Common (o : TermOptions) (most : Int) : Prop where
  principal : ∃ t, o.principal = .text t ∧ Entry.endsInScale t = false
  currency : ∃ t, o.currency = .text t ∧ t.isEmpty = false
  repayments : o.repayments ≤ most

variable {o : TermOptions} {payload : Payload} {most : Int} {terms : LoanTerms}
  {entry : CurrencyEntry}

def Fills (o : TermOptions) (payload : Payload) : Prop :=
  ∀ field ∈ o.fields, Json.field? payload field.1 = field.2

/-- Each field of a payload is read as the value of its option. -/
structure ReadFrom (o : TermOptions) (payload : Payload) : Prop where
  entry : ∀ defaultCurrency, payload.entry defaultCurrency = Entry.currency o.currency
  digits : payload.digits = .ok o.digits
  repayments : payload.wholeNumberField "numberOfRepayments" none = .ok o.repayments
  every : payload.wholeNumberField "repaymentEvery" (some 1) = .ok o.every
  unit : ((Json.field? payload "repaymentFrequencyType").getD (.text "months")).display =
    o.frequency
  amount : ∀ x, (∃ t, payload.requiredText "principal" = .ok t ∧ Entry.number t = .ok x) ↔
    amount o.principal = .ok x
  rate : ∀ x, (∃ t, payload.requiredText "annualInterestRate" = .ok t ∧
    Entry.number t = .ok x) ↔ Entry.number o.rate = .ok x
  term : ∀ n, payload.wholeNumberField "loanTermFrequency" (some n) = .ok (o.loanTerm.getD n)
  termUnit : ∀ unit, payload.termUnit unit = o.termUnit unit
  disbursed : ∀ d, (∃ t, payload.requiredText "disbursementDate" = .ok t ∧
    Entry.dateText t = .ok d) ↔ Entry.dateText o.disbursementDate = .ok d
  first : payload.optionalDate "firstRepaymentDate" =
    (givenText o.firstRepaymentDate).mapM Entry.dateText
  interestFrom : payload.optionalDate "interestCalculatedFrom" = .ok none

theorem readFrom_of_fills (hfills : o.Fills payload) (ho : o.Common most) :
    o.ReadFrom payload := by
  obtain ⟨shown, hshown, hscale⟩ := ho.principal
  obtain ⟨code, hcode, hnamed⟩ := ho.currency
  simp only [Fills, fields, List.forall_mem_cons] at hfills
  obtain ⟨hprincipal, hrate, hdisbursed, hrepayments, hevery, hunit, hterm, htermUnit, hfirst,
    hfrom, hcurrency, hdigits, -⟩ := hfills
  rw [hshown] at hprincipal
  rw [hcode] at hcurrency
  exact {
    entry := fun _ => by rw [Payload.entry_of_text hcurrency hnamed, hcode]
    digits := Payload.digits_of_int hdigits
    repayments := Payload.wholeNumberField_of_int hrepayments _
    every := Payload.wholeNumberField_of_int hevery _
    unit := by
      rw [hunit]
      rfl
    amount := fun x => by
      rw [Payload.exists_requiredText_iff hprincipal Entry.not_isEmpty_of_number, hshown,
        amount_eq_ok_iff, Entry.amount_eq_ok_iff hscale]
    rate := fun _ => Payload.exists_requiredText_iff hrate Entry.not_isEmpty_of_number
    term := fun n => Payload.wholeNumberField_of_option hterm n
    termUnit := fun unit => by
      rw [Payload.termUnit, Payload.optional_of_text htermUnit, termUnit]
      cases givenText o.loanTermType <;> rfl
    disbursed := fun _ => Payload.exists_requiredText_iff hdisbursed Entry.not_isEmpty_of_dateText
    first := Payload.optionalDate_of_text hfirst
    interestFrom := Payload.optionalDate_of_none hfrom }

theorem ReadFrom.holds_iff (h : o.ReadFrom payload) (hserved : o.repayments ≤ most)
    (defaultCurrency : Text) (parts : TermParts) :
    payload.Holds defaultCurrency (.int most) parts ↔ o.Holds parts := by
  constructor
  · intro hparts
    have hrepayments := Except.ok.inj (hparts.repayments.symm.trans h.repayments)
    have hevery := Except.ok.inj (hparts.every.symm.trans h.every)
    obtain ⟨digits, hdigits, hcurrency⟩ := hparts.currency
    cases hdigits.symm.trans h.digits
    exact {
      entry := (h.entry _).symm.trans hparts.entry
      unit := h.unit ▸ hparts.unit
      termUnit := (h.termUnit _).symm.trans hparts.termUnit
      disbursed := (h.disbursed _).1 hparts.disbursed
      first := h.first.symm.trans hparts.first
      rate := (h.rate _).1 hparts.rate
      currency := hcurrency
      amount := (h.amount _).1 hparts.amount
      principal := hparts.principal
      repayments := hrepayments
      every := hevery
      term := by
        rw [← hrepayments, ← hevery]
        exact Except.ok.inj (hparts.term.symm.trans (h.term _))
      interestFrom := Except.ok.inj (hparts.interestFrom.symm.trans h.interestFrom) }
  · intro hparts
    exact {
      entry := (h.entry _).trans hparts.entry
      currency := ⟨o.digits, h.digits, hparts.currency⟩
      repayments := by rw [h.repayments, hparts.repayments]
      served := by rw [hparts.repayments, Payload.checkRepayments_of_le hserved]
      every := by rw [h.every, hparts.every]
      unit := h.unit ▸ hparts.unit
      amount := (h.amount _).2 hparts.amount
      principal := hparts.principal
      rate := (h.rate _).2 hparts.rate
      term := by rw [h.term, hparts.term, hparts.repayments, hparts.every]
      termUnit := (h.termUnit _).trans hparts.termUnit
      disbursed := (h.disbursed _).2 hparts.disbursed
      first := h.first.trans hparts.first
      interestFrom := by rw [h.interestFrom, hparts.interestFrom] }

theorem terms_iff (hfills : o.Fills payload) (ho : o.Common most) (defaultCurrency : Text) :
    payload.terms defaultCurrency (.int most) = .ok (terms, entry) ↔
      o.terms = .ok (terms, entry) := by
  simp only [Payload.terms_eq_ok_iff, terms_eq_ok_iff,
    (readFrom_of_fills hfills ho).holds_iff ho.repayments]

theorem fields_keys (o : TermOptions) : (o.fields.map (·.1)).Nodup := by
  change List.Nodup ["principal", "annualInterestRate", "disbursementDate", "numberOfRepayments",
    "repaymentEvery", "repaymentFrequencyType", "loanTermFrequency", "loanTermFrequencyType",
    "firstRepaymentDate", "interestCalculatedFrom", "currency", "digits"]
  decide

theorem digitCount_every_le (h : ∀ field ∈ o.given, field.2.isWritable) :
    digitCount o.every.natAbs ≤ longestNumeral :=
  of_decide_eq_true (h ("repaymentEvery", .int o.every) (Json.mem_givenFields.2 (by simp [fields])))

theorem fills_of_perm (hpayload : payload.Perm o.given) : o.Fills payload := fun _ hmem =>
  Json.field?_of_givenFields o.fields_keys hpayload hmem

/-- No text holds the two halves of a pair side by side. -/
def Unpaired (o : TermOptions) : Prop := ∀ field ∈ o.given, ∀ t, field.2 = .text t → t.IsUnpaired

theorem isPlain_given (ho : o.Common most) (htexts : o.Unpaired) :
    ∀ field ∈ o.given, field.2.IsPlain := by
  obtain ⟨shown, hshown, -⟩ := ho.principal
  obtain ⟨code, hcode, -⟩ := ho.currency
  have hkinds : ∀ field ∈ o.given, (∃ t, field.2 = .text t) ∨ ∃ n, field.2 = .int n := by
    refine Json.forall_givenFields (P := fun v => (∃ t, v = .text t) ∨ ∃ n, v = .int n).2 ?_
    simp [fields, hshown, hcode]
  rintro ⟨key, v⟩ hmem
  rcases hkinds _ hmem with ⟨t, rfl⟩ | ⟨n, rfl⟩
  · exact .text (htexts _ hmem t rfl)
  · exact .int n

end TermOptions

namespace Payload

variable {payload : Payload}

def request (payload : Payload) : Request where
  body := .text (some "application/json") ((Json.object payload).line " ")

theorem check_request (payload : Payload) : payload.request.check = .ok () := by
  have htext : Text.checkWritable (fun _ => false) ((Json.object payload).line " ") = .ok () := by
    rw [Text.checkWritable, Text.unwritable?_ofString]
  have hbody : payload.request.body.check = .ok () := by
    rw [request, RequestBody.check, htext]
    rfl
  rw [Request.check, hbody]
  rfl

/-- The fields come out as they were put in, or not at all if one of them is too long to be read. -/
theorem read_request (hne : payload ≠ [])
    (hpayload : ∀ field ∈ payload, field.1.IsUnpaired ∧ field.2.IsPlain)
    (hkeys : (payload.map (·.1)).Nodup) {deepest : Nat} (hdeepest : 0 < deepest) :
    payload.request.body.read .null deepest =
      .ok (if payload.all (·.2.isWritable) then some (.object payload) else none) := by
  have hjson : payload.request.body.announcesJson = true := by
    change isJsonType "application/json" = true
    decide
  have hdecode : payload.request.body.decode deepest = _ :=
    Json.readBody_line hne hpayload hkeys hdeepest
  rw [RequestBody.read, if_pos hjson, hdecode]
  cases payload.all (·.2.isWritable) <;> rfl

end Payload

theorem Response.exists_of_status {x : Except Refusal Response} {status : Nat}
    (h : x.toOption.map (·.status) = some status) : ∃ body, x = .ok ⟨status, body⟩ := by
  cases x with
  | error r => cases h
  | ok response =>
    cases Option.some.inj h
    exact ⟨response.body, rfl⟩

namespace Settings

variable {settings : Settings} {request : Request} {shape : Shape} {payload : Payload} {body : Json}
  {s : Schedule} {entry : CurrencyEntry}

theorem make?_nil : make? [] [] = .ok {} := rfl

theorem scheduleOf_eq_ok_iff : settings.scheduleOf payload = .ok (s, entry) ↔
    ∃ terms, payload.terms settings.defaultCurrency settings.maxRepayments = .ok (terms, entry) ∧
      (settings.engine.generate terms).outcome = .ok s :=
  bind_fst_eq_ok_iff (f := fun terms => (settings.engine.generate terms).outcome)

theorem respondTo_eq_ok_iff : settings.respondTo shape payload = .ok ⟨200, body⟩ ↔
    ∃ s entry, settings.scheduleOf payload = .ok (s, entry) ∧
      shape.assemble s entry = .ok body := by
  unfold respondTo
  cases h : settings.scheduleOf payload with
  | ok found =>
    obtain ⟨s, entry⟩ := found
    change (shape.assemble s entry >>= fun view => Except.ok (Response.mk 200 view)) = _ ↔ _
    simp [bind_eq_ok_iff]
  | error r =>
    refine iff_of_false ?_ (by simp)
    dsimp only
    split
    · intro hproblem
      exact status_problem_ne r.message (congrArg Response.status (Except.ok.inj hproblem))
    · nofun

theorem respond_eq_ok_iff (hsent : request.check = .ok ()) :
    settings.respond request = .ok ⟨200, body⟩ ↔ settings.answer request = .ok ⟨200, body⟩ := by
  rw [respond, hsent, ok_bind]
  cases settings.answer request with
  | ok response => rfl
  | error fault =>
    refine iff_of_false (fun h => status_respondToFault_ne h rfl) fun h => ?_
    cases h

end Settings

namespace TermOptions

variable {o : TermOptions} {payload : Payload} {most : Int} {body : Json}

theorem scheduleOf_iff (hfills : o.Fills payload) (ho : o.Common 1200) {s : Schedule}
    {entry : CurrencyEntry} :
    ({} : Settings).scheduleOf payload = .ok (s, entry) ↔ o.compute = .ok (s, entry) := by
  simp only [Settings.scheduleOf_eq_ok_iff, compute_eq_ok_iff]
  exact exists_congr fun terms => and_congr_left fun _ => terms_iff hfills ho _

theorem respond_iff (hfills : o.Fills payload) (ho : o.Common 1200) {request : Request}
    (hsent : request.check = .ok ()) (hasks : ({} : Settings).Asks request .rich payload) :
    ({} : Settings).respond request = .ok ⟨200, body⟩ ↔
      ∃ s entry, o.compute = .ok (s, entry) ∧ s.inShape entry "rich" = .ok body := by
  have hshape : Shape.ofName? "rich" = some .rich := rfl
  rw [Settings.respond_eq_ok_iff hsent, Settings.answer_of_asks hasks,
    Settings.respondTo_eq_ok_iff]
  simp only [scheduleOf_iff hfills ho, Schedule.inShape, hshape]

theorem respond_request_iff (ho : o.Common 1200) (htexts : o.Unpaired)
    (hpayload : payload.Perm o.given) :
    ({} : Settings).respond payload.request = .ok ⟨200, body⟩ ↔
      (∀ field ∈ o.given, field.2.isWritable) ∧
        ∃ s entry, o.compute = .ok (s, entry) ∧ s.inShape entry "rich" = .ok body := by
  have hplain : ∀ field ∈ payload, field.1.IsUnpaired ∧ field.2.IsPlain := fun field hmem =>
    ⟨Json.isUnpaired_key (hpayload.subset hmem), isPlain_given ho htexts _ (hpayload.subset hmem)⟩
  have hkeys : (payload.map (·.1)).Nodup :=
    (hpayload.map _).nodup_iff.2 (Json.givenFields_keys o.fields_keys)
  have hne : payload ≠ [] := fun hnil =>
    List.cons_ne_nil _ _ (List.nil_perm.1 (hnil ▸ hpayload))
  have hread := Payload.read_request hne hplain hkeys (show 0 < ({} : Settings).deepestBody by decide)
  have hall : payload.all (·.2.isWritable) = true ↔ ∀ field ∈ o.given, field.2.isWritable := by
    simp only [List.all_eq_true, hpayload.mem_iff]
  rw [← hall]
  cases hwritable : payload.all (·.2.isWritable) with
  | true =>
    rw [hwritable, if_pos rfl] at hread
    rw [respond_iff (fills_of_perm hpayload) ho payload.check_request ⟨rfl, hread⟩, and_iff_right rfl]
  | false =>
    rw [hwritable, if_neg Bool.false_ne_true] at hread
    have hanswer : ({} : Settings).answer payload.request =
        .ok (.problem "Request body must be a JSON object") := by
      have hshape : Shape.ofName? payload.request.shape = some .rich := rfl
      rw [Settings.answer, hshape]
      change (payload.request.body.read _ _ >>= _) = _
      rw [hread]
      rfl
    rw [Settings.respond_eq_ok_iff payload.check_request, hanswer]
    refine iff_of_false (fun h => ?_) fun h => Bool.false_ne_true h.1
    exact status_problem_ne _ (congrArg Response.status (Except.ok.inj h))

/-- What a run with options and a request with the same values have in common. -/
structure FrontsAgree (o : TermOptions) (settings : Settings) (request : Request) : Prop where
  succeeds_iff : (∃ body, settings.respond request = .ok ⟨200, body⟩) ↔
    (∃ found, o.compute = .ok found) ∧ ∀ field ∈ o.given, field.2.isWritable
  body : ∀ s entry body, o.compute = .ok (s, entry) →
    settings.respond request = .ok ⟨200, body⟩ → s.inShape entry "rich" = .ok body

/-- A service with default settings has a schedule for a request exactly if there is one for
options with the same values and none of them is too long to be written in a request; it answers
with the full view of that schedule. -/
theorem fronts_agree {settings : Settings} (hsettings : Settings.make? [] [] = .ok settings)
    (ho : o.Common 1200) (htexts : o.Unpaired) (hpayload : payload.Perm o.given) :
    o.FrontsAgree settings payload.request := by
  cases hsettings.symm.trans Settings.make?_nil
  refine ⟨⟨?_, ?_⟩, fun s entry body hcompute hbody => ?_⟩
  · rintro ⟨body, hbody⟩
    obtain ⟨hwritable, s, entry, hcompute, -⟩ := (respond_request_iff ho htexts hpayload).1 hbody
    exact ⟨⟨_, hcompute⟩, hwritable⟩
  · rintro ⟨⟨⟨s, entry⟩, hcompute⟩, hwritable⟩
    have hcode := Settings.code_of_scheduleOf
      ((scheduleOf_iff (fills_of_perm hpayload) ho).2 hcompute)
    obtain ⟨body, hbody⟩ := Shape.rich.exists_assemble hcode
    exact ⟨body, (respond_request_iff ho htexts hpayload).2
      ⟨hwritable, s, entry, hcompute, hbody⟩⟩
  · obtain ⟨-, s', entry', hcompute', hview⟩ := (respond_request_iff ho htexts hpayload).1 hbody
    cases hcompute.symm.trans hcompute'
    exact hview

def spelledOptions : TermOptions where
  principal := .text " 1,2E3 "
  rate := "7.5"
  repayments := 3
  disbursementDate := "2024-01-31"
  loanTermType := some ""
  currency := .text " eur"
  digits := some 3

theorem common_spelledOptions : spelledOptions.Common 1200 :=
  ⟨⟨_, rfl, by decide +kernel⟩, ⟨_, rfl, by decide⟩, by decide⟩

theorem unpaired_spelledOptions : spelledOptions.Unpaired := by
  simp [Unpaired, given, Json.givenFields, fields, spelledOptions, Text.isUnpaired_ofString]

set_option maxRecDepth 10000 in
theorem fronts_agree_spelled : Settings.make? [] [] = .ok {} ∧ spelledOptions.Common 1200 ∧
    spelledOptions.Unpaired ∧ spelledOptions.given.reverse.Perm spelledOptions.given ∧
    ∃ s entry body, spelledOptions.compute = .ok (s, entry) ∧
      ({} : Settings).respond (Payload.request spelledOptions.given.reverse) = .ok ⟨200, body⟩ ∧
      s.inShape entry "rich" = .ok body := by
  have hperm : spelledOptions.given.reverse.Perm spelledOptions.given := List.reverse_perm _
  have hagree := fronts_agree Settings.make?_nil common_spelledOptions unpaired_spelledOptions hperm
  obtain ⟨found, hcompute⟩ := exists_ok_of_isSome (x := spelledOptions.compute) (by decide +kernel)
  have hwritable : ∀ field ∈ spelledOptions.given, field.2.isWritable := by decide +kernel
  obtain ⟨body, hbody⟩ := hagree.succeeds_iff.2 ⟨⟨found, hcompute⟩, hwritable⟩
  exact ⟨Settings.make?_nil, common_spelledOptions, unpaired_spelledOptions, hperm, found.1, found.2,
    body, hcompute, hbody, hagree.body _ _ body hcompute hbody⟩

def singleRepayment (every : Int) : TermOptions :=
  { spelledOptions with
    repayments := 1
    every := every
    firstRepaymentDate := some "2024-02-29"
    loanTerm := some 1 }

def longInterval : TermOptions := singleRepayment (10 ^ longestNumeral : Nat)

/-- An amount of two halves. A request that holds them side by side holds the digit one, of which
they are the halves. -/
def halvedAmount : TermOptions :=
  { spelledOptions with principal := .text ⟨"", [(0x35, ""), (0x7cf, "")]⟩ }

theorem unpaired_singleRepayment (every : Int) : (singleRepayment every).Unpaired := by
  simp [Unpaired, given, Json.givenFields, fields, singleRepayment, spelledOptions,
    Text.isUnpaired_ofString]

set_option maxRecDepth 10000 in
/-- There may be a schedule for options only, or only for a request with their values. -/
theorem not_agree_longInterval_halvedAmount :
    (longInterval.Common 1200 ∧ (∃ found, longInterval.compute = .ok found) ∧
      ∀ body, ({} : Settings).respond (Payload.request longInterval.given) ≠ .ok ⟨200, body⟩) ∧
    halvedAmount.Common 1200 ∧ (∀ found, halvedAmount.compute ≠ .ok found) ∧
      ∃ body, ({} : Settings).respond (Payload.request halvedAmount.given) = .ok ⟨200, body⟩ := by
  have hlong : longInterval.Common 1200 :=
    ⟨⟨_, rfl, by decide +kernel⟩, ⟨_, rfl, by decide⟩, by decide⟩
  have hhalved : halvedAmount.Common 1200 :=
    ⟨⟨_, rfl, by decide +kernel⟩, ⟨_, rfl, by decide⟩, by decide⟩
  refine ⟨⟨hlong, exists_ok_of_isSome (x := longInterval.compute) (by decide +kernel),
    fun body hbody => ?_⟩, hhalved, fun found hfound => ?_, ?_⟩
  · have hwritable := ((respond_request_iff hlong (unpaired_singleRepayment _) (.refl _)).1 hbody).1
    have hfits := digitCount_every_le hwritable
    rw [longInterval, singleRepayment, Int.natAbs_natCast, digitCount_pow] at hfits
    exact absurd hfits (Nat.not_succ_le_self _)
  · have hnone : halvedAmount.compute.toOption.isSome = false := by decide +kernel
    rw [hfound] at hnone
    cases hnone
  · exact Response.exists_of_status (by decide +kernel)

end TermOptions
end AddOnLoan
