import AddOnLoan.Proofs.Web.Reading
import AddOnLoan.Proofs.Web.Settings
import AddOnLoan.Web.Service

namespace AddOnLoan

theorem Engine.currency_of_generate {engine : Engine} {terms : LoanTerms} {s : Schedule}
    (h : (engine.generate terms).outcome = .ok s) : s.currency = terms.currency := by
  simp only [generate, Traced.outcome_bind, bind_eq_ok_iff, Traced.outcome_liftM] at h
  obtain ⟨dates, -, perYear, -, s', hs', _, -, h⟩ := h
  cases h
  obtain ⟨run, hrun⟩ := exists_run hs'
  obtain ⟨rest, -, rfl⟩ := schedule_eq_ok hrun
  rfl

theorem Shape.exists_assemble (shape : Shape) {s : Schedule} {entry : CurrencyEntry}
    (h : entry.code = s.currency.code) : ∃ body, shape.assemble s entry = .ok body := by
  have hcheck : s.checkEntry entry = .ok () := if_pos h
  cases shape with
  | rich => exact ⟨_, by rw [assemble, RichView.assemble, hcheck]; rfl⟩
  | slim => exact ⟨_, by rw [assemble, SlimView.assemble, hcheck]; rfl⟩

namespace RequestBody

variable {body : RequestBody} {largest : Json} {deepest : Nat} {r : Refusal}

/-- A body that is sent has more bytes than are allowed, or what is allowed is no number. -/
def IsTooLarge (body : RequestBody) (largest : Json) : Prop :=
  largest ≠ .null ∧ ∃ size : Nat, body.size? = some size ∧ largest.isBelow? size ≠ some false

theorem checkSize_eq_ok_iff :
    body.checkSize largest = .ok () ↔ ¬body.IsTooLarge largest := by
  unfold checkSize IsTooLarge
  split
  · simp
  · next h => simp [h]
  · next largest _ _ size hgiven hsize =>
    have hgiven : largest ≠ .null := hgiven
    split <;> next h => simp [hgiven, hsize, h]

/-- A body is only read if it is announced as JSON, and what is wrong with one that is no JSON has
a message: there is none for its size and its depth. -/
theorem exists_read_error_iff : (∃ r, body.read largest deepest = .error r) ↔
    body.announcesJson = true ∧ (body.IsTooLarge largest ∨
      ¬body.IsTooLarge largest ∧ body.decode deepest = .error .tooDeep) := by
  unfold read
  split
  · next hjson =>
    simp only [hjson, true_and]
    cases hsize : body.checkSize largest with
    | error r =>
      have hlarge : body.IsTooLarge largest := by
        by_contra hlarge
        cases hsize.symm.trans (checkSize_eq_ok_iff.2 hlarge)
      exact iff_of_true ⟨r, rfl⟩ (.inl hlarge)
    | ok _ =>
      have hsmall := checkSize_eq_ok_iff.1 hsize
      rw [or_iff_right hsmall, and_iff_right hsmall, ok_bind]
      split <;> next hdecode =>
        simp [hdecode, pure, Except.pure, throw, throwThe, MonadExceptOf.throw]
  · next hjson => simp [hjson]

end RequestBody

namespace Settings

variable {settings : Settings} {request : Request} {shape : Shape} {payload : Payload}

/-- A request for a schedule in a known shape, with an object for its body. -/
structure Asks (settings : Settings) (request : Request) (shape : Shape) (payload : Payload) :
    Prop where
  shape : Shape.ofName? request.shape = some shape
  body : request.body.read settings.largestBody settings.deepestBody =
    .ok (some (.object payload))

/-- The answer is the schedule for the terms in the request, in the shape that is asked for. -/
def Serves (settings : Settings) (request : Request) (response : Response) : Prop :=
  ∃ shape payload terms entry schedule body, settings.Asks request shape payload ∧
    payload.terms settings.defaultCurrency settings.maxRepayments = .ok (terms, entry) ∧
    (settings.engine.generate terms).outcome = .ok schedule ∧
    shape.assemble schedule entry = .ok body ∧ response = ⟨200, body⟩

/-- The requests that have no answer of their own. -/
inductive Faulty (settings : Settings) (request : Request) : Prop
  | size (hshape : Shape.ofName? request.shape ≠ none) (hjson : request.body.announcesJson)
    (h : request.body.IsTooLarge settings.largestBody)
  | tooDeep (hshape : Shape.ofName? request.shape ≠ none) (hjson : request.body.announcesJson)
    (hsize : ¬request.body.IsTooLarge settings.largestBody)
    (h : request.body.decode settings.deepestBody = .error .tooDeep)
  | infinite {shape : Shape} {payload : Payload} {name : String} {s : Bool}
    (hasks : settings.Asks request shape payload)
    (hreaches : payload.Reaches settings.defaultCurrency settings.maxRepayments name)
    (hfield : Json.field? payload name = some (.double (.infinity s)))
  | overflow {shape : Shape} {payload : Payload} {terms : LoanTerms} {entry : CurrencyEntry}
    {r : Refusal} (hasks : settings.Asks request shape payload)
    (hterms : payload.terms settings.defaultCurrency settings.maxRepayments = .ok (terms, entry))
    (h : settings.engine.Fault terms r)

theorem respondTo_yields (hvalid : settings.Valid) (hasks : settings.Asks request shape payload) :
    Yields (settings.respondTo shape payload)
      (fun response => settings.Serves request response ∨ ∃ text, response = .problem text)
      (fun _ => settings.Faulty request) := by
  obtain ⟨most, hmost⟩ := hvalid.most
  obtain ⟨digits, hdigits⟩ := hvalid.precision
  have hterms := payload.terms_yields settings.defaultCurrency most
  rw [← hmost] at hterms
  unfold respondTo
  split
  · next schedule entry h =>
    obtain ⟨⟨terms, entry'⟩, hread, h⟩ := bind_eq_ok_iff.1 h
    obtain ⟨schedule', hgenerate, h⟩ := bind_eq_ok_iff.1 h
    cases h
    obtain ⟨-, hcode⟩ := hterms.result hread
    rw [← Engine.currency_of_generate hgenerate] at hcode
    obtain ⟨body, hbody⟩ := shape.exists_assemble hcode
    refine .ok_bind hbody (.ok (.inl ?_))
    exact ⟨shape, payload, terms, entry, schedule, body, hasks, hread, hgenerate, hbody, rfl⟩
  · next r h =>
    split
    · exact .ok (.inr ⟨_, rfl⟩)
    · next hkind =>
      refine .error ?_
      rcases bind_eq_error_iff.1 h with h | ⟨⟨terms, entry⟩, hread, h⟩
      · rcases hterms.cause h with hinput | rfl
        · exact absurd hinput hkind
        · rw [hmost, Payload.terms_eq_infinite_iff, ← hmost] at h
          obtain ⟨name, s, hreaches, hfield⟩ := h
          exact .infinite hasks hreaches hfield
      · rcases bind_eq_error_iff.1 h with h | ⟨schedule, -, h⟩
        · exact .overflow hasks hread ((Engine.generate_eq_error_iff_fault
            (hterms.result hread).1 hdigits hvalid.rounding).1 ⟨h, Bool.eq_false_iff.2 hkind⟩)
        · cases h

theorem answer_yields (hvalid : settings.Valid) (request : Request) :
    Yields (settings.answer request)
      (fun response => settings.Serves request response ∨ ∃ text, response = .problem text)
      (fun _ => settings.Faulty request) := by
  unfold answer
  split
  · exact .ok (.inr ⟨_, rfl⟩)
  · next shape hshape =>
    have hknown : Shape.ofName? request.shape ≠ none := by
      rw [hshape]
      nofun
    refine Yields.bind (P := fun value =>
      request.body.read settings.largestBody settings.deepestBody = .ok value) ⟨fun h => h, fun h => ?_⟩ ?_
    · obtain ⟨hjson, hlarge | ⟨hsmall, hdeep⟩⟩ := RequestBody.exists_read_error_iff.1 ⟨_, h⟩
      · exact .size hknown hjson hlarge
      · exact .tooDeep hknown hjson hsmall hdeep
    · intro value hvalue
      split
      · exact respondTo_yields hvalid ⟨hshape, hvalue⟩
      · exact .ok (.inr ⟨_, rfl⟩)

theorem answer_of_asks (hasks : settings.Asks request shape payload) :
    settings.answer request = settings.respondTo shape payload := by
  simp only [answer, hasks.shape, hasks.body, bind, Except.bind]

theorem respondTo_of_fault {r : Refusal} (h : settings.scheduleOf payload = .error r)
    (hkind : r.kind.isAboutInput = false) : settings.respondTo shape payload = .error r := by
  simp only [respondTo, h, hkind]
  rfl

theorem answer_of_read_error (hshape : Shape.ofName? request.shape ≠ none) {r : Refusal}
    (h : request.body.read settings.largestBody settings.deepestBody = .error r) :
    settings.answer request = .error r := by
  obtain ⟨shape, hshape⟩ := Option.ne_none_iff_exists'.1 hshape
  simp only [answer, hshape, h]
  rfl

theorem Faulty.answer_eq_error (hvalid : settings.Valid) (h : settings.Faulty request) :
    ∃ r, settings.answer request = .error r := by
  cases h with
  | size hshape hjson hlarge =>
    obtain ⟨r, hr⟩ := RequestBody.exists_read_error_iff.2 ⟨hjson, .inl hlarge⟩
    exact ⟨r, answer_of_read_error hshape hr⟩
  | tooDeep hshape hjson hsmall hdeep =>
    obtain ⟨r, hr⟩ := RequestBody.exists_read_error_iff.2 ⟨hjson, .inr ⟨hsmall, hdeep⟩⟩
    exact ⟨r, answer_of_read_error hshape hr⟩
  | infinite hasks hreaches hfield =>
    obtain ⟨most, hmost⟩ := hvalid.most
    rw [hmost] at hreaches
    have hterms := Payload.terms_eq_infinite_iff.2 ⟨_, _, hreaches, hfield⟩
    rw [← hmost] at hterms
    refine ⟨.outOfRange .infiniteWholeNumber,
      (answer_of_asks hasks).trans (respondTo_of_fault ?_ rfl)⟩
    exact bind_eq_error_iff.2 (.inl hterms)
  | @overflow shape payload terms entry r hasks hterms hfault =>
    obtain ⟨most, hmost⟩ := hvalid.most
    obtain ⟨digits, hdigits⟩ := hvalid.precision
    have hplain := ((payload.terms_yields settings.defaultCurrency most).result
      (hmost ▸ hterms)).1
    obtain ⟨hgenerate, hkind⟩ :=
      (Engine.generate_eq_error_iff_fault hplain hdigits hvalid.rounding).2 hfault
    refine ⟨r, (answer_of_asks hasks).trans (respondTo_of_fault ?_ hkind)⟩
    exact bind_eq_error_iff.2 (.inr ⟨_, hterms, bind_eq_error_iff.2 (.inl hgenerate)⟩)

theorem respond_of_fault {fault : Refusal} (hsent : request.check = .ok ())
    (h : settings.answer request = .error fault) :
    settings.respond request = settings.respondToFault fault := by
  rw [respond, hsent]
  simp only [h]
  rfl

/-- Under any settings of the right kinds, the requests that are answered with their schedule or
with a message are exactly those that are not faulty; a faulty one is not answered at all. How deep
a body may be nested is one of the settings. -/
theorem answered_iff_not_faulty (hvalid : settings.Valid) (request : Request) :
    (∃ response, settings.answer request = .ok response ∧
      (settings.Serves request response ∨ ∃ text, response = .problem text)) ↔
        ¬settings.Faulty request := by
  constructor
  · rintro ⟨response, hresponse, -⟩ hfaulty
    obtain ⟨r, hr⟩ := hfaulty.answer_eq_error hvalid
    cases hresponse.symm.trans hr
  · intro hfaulty
    have hyields := answer_yields hvalid request
    cases h : settings.answer request with
    | ok response => exact ⟨response, rfl, hyields.result h⟩
    | error r => exact absurd (hyields.cause h) hfaulty

def infiniteRepayments : Request where
  body := .text (some "application/json") ("\x7b\"principal\": \"500\", " ++
    "\"annualInterestRate\": \"7.5\", \"disbursementDate\": \"2024-01-01\", " ++
    "\"numberOfRepayments\": 1e999\x7d")

set_option maxRecDepth 10000 in
theorem answer_infiniteRepayments :
    ({} : Settings).answer infiniteRepayments = .error (.outOfRange .infiniteWholeNumber) := by
  have h : (match ({} : Settings).answer infiniteRepayments with
      | .error fault => decide (fault = .outOfRange .infiniteWholeNumber)
      | .ok _ => false) = true := by
    decide +kernel
  split at h
  · next fault hfault => rw [hfault, of_decide_eq_true h]
  · cases h

theorem faulty_infiniteRepayments :
    ({} : Settings).Valid ∧ ({} : Settings).Faulty infiniteRepayments := by
  refine ⟨valid_default, ?_⟩
  by_contra hfaulty
  obtain ⟨response, hresponse, -⟩ :=
    (answered_iff_not_faulty valid_default infiniteRepayments).2 hfaulty
  cases hresponse.symm.trans answer_infiniteRepayments

theorem respond_infiniteRepayments : ({} : Settings).Valid ∧
    infiniteRepayments.check = .ok () ∧
    ({} : Settings).respond infiniteRepayments = .ok .failure ∧
    Response.failure.status = 500 := by
  have hcheck : infiniteRepayments.check = .ok () := by decide +kernel
  exact ⟨valid_default, hcheck, respond_of_fault hcheck answer_infiniteRepayments, rfl⟩

end Settings
end AddOnLoan
