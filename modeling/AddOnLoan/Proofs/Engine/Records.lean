import AddOnLoan.Proofs.Calendar.Text
import AddOnLoan.Proofs.Engine.Faults
import AddOnLoan.Proofs.Text.Points

namespace AddOnLoan

def Refusal.IsRejection (r : Refusal) : Prop := r.kind = .terms ∨ r.kind = .unsupportedUnit

/-- An event is reported by a part of this program, and a text is in its message. -/
structure Event.Tells (e : Event) (said : Text) : Prop where
  origin : ("DEBUG flat_loan." : Text).points <+: e.line.points
  message : said.points <:+: e.message.points

theorem Refusal.not_isRejection_money (e : MoneyError) : ¬(Refusal.money e).IsRejection := by
  intro h
  cases e with
  | malformedParts cause => cases cause <;> simp [IsRejection, kind, moneyKind] at h
  | _ => simp [IsRejection, kind, moneyKind] at h

theorem Refusal.not_isRejection_signal (s : Signal) : ¬(Refusal.signal s).IsRejection := by
  simp [IsRejection, kind]

theorem Refusal.not_isRejection_longNumeral : ¬(Refusal.input .longNumeral).IsRejection := by
  simp [IsRejection, kind]

theorem Refusal.IsArithmetic.not_isRejection {r : Refusal} (h : r.IsArithmetic) :
    ¬r.IsRejection := by
  cases r with
  | money e => exact not_isRejection_money e
  | outOfRange e | input e | signal _ | unknownRounding | unusableSetting | outOfMemory =>
    simp [IsRejection, kind]
  | _ => exact h.elim

namespace Event

theorem line_origin (e : Event) : ("DEBUG flat_loan." : Text).points <+: e.line.points := by
  have horigin : ("DEBUG flat_loan." : Text).points <+: (("DEBUG " : Text) ++ e.origin).points := by
    have hnames : e.origin = "flat_loan.frequency" ∨ e.origin = "flat_loan.engine" := by
      cases e <;> simp [origin]
    rcases hnames with h | h <;> rw [h] <;> decide +kernel
  rw [line, Text.points_append, Text.points_append, List.append_assoc]
  exact horigin.trans (List.prefix_append _ _)

theorem tells_rejected (e : TermsError) : (rejected e).Tells e.message where
  origin := line_origin _
  message := by
    rw [message, Text.points_append]
    exact (List.suffix_append _ _).isInfix

end Event

namespace Traced

variable {t : Traced α} {f : α → Traced β}

/-- Whatever terms are turned down for has been told in an event. -/
def Recorded (t : Traced α) : Prop :=
  ∀ r, t.outcome = .error r → r.IsRejection → ∃ e ∈ t.events, e.Tells r.message

theorem events_bind_of_ok {a : α} (h : t.outcome = .ok a) :
    (t >>= f).events = t.events ++ (f a).events := by
  change (Traced.bind t f).events = _
  rw [Traced.bind, h]

theorem events_bind_of_error {r : Refusal} (h : t.outcome = .error r) :
    (t >>= f).events = t.events := by
  change (Traced.bind t f).events = _
  rw [Traced.bind, h]

theorem recorded_of_outcome_ok {a : α} (h : t.outcome = .ok a) : t.Recorded := by
  intro r hr
  cases h.symm.trans hr

/-- Events of a first part are kept, so it is enough that each part records its own refusals. -/
protected theorem Recorded.bind (ht : t.Recorded) (hf : ∀ a, t.outcome = .ok a → (f a).Recorded) :
    (t >>= f).Recorded := by
  intro r hr hrejection
  rw [outcome_bind] at hr
  rcases bind_eq_error_iff.1 hr with hfirst | ⟨a, ha, hrest⟩
  · rw [events_bind_of_error hfirst]
    exact ht r hfirst hrejection
  · rw [events_bind_of_ok ha]
    obtain ⟨e, he, htells⟩ := hf a ha r hrest hrejection
    exact ⟨e, List.mem_append_right _ he, htells⟩

theorem recorded_reject (e : TermsError) : (reject e : Traced α).Recorded := by
  intro r hr _
  cases hr
  exact ⟨_, List.mem_singleton_self _, Event.tells_rejected e⟩

theorem recorded_require (condition : Bool) (e : TermsError) : (require condition e).Recorded := by
  unfold require
  split
  · rintro r hr hrejection
    cases hr
    exact absurd hrejection Refusal.not_isRejection_longNumeral
  · split
    · exact recorded_of_outcome_ok rfl
    · exact recorded_reject e

/-- What has no events must not turn terms down. -/
theorem recorded_liftM {x : Except Refusal α} (h : ∀ r, x = .error r → ¬r.IsRejection) :
    (liftM x : Traced α).Recorded :=
  fun r hr hrejection => absurd hrejection (h r hr)

theorem recorded_liftM_money (x : Except MoneyError α) : (liftM x : Traced α).Recorded := by
  refine recorded_liftM fun r hr => ?_
  obtain ⟨e, -, rfl⟩ := mapError_eq_error_iff.1 hr
  exact Refusal.not_isRejection_money e

theorem recorded_liftM_signal (x : Except Signal α) : (liftM x : Traced α).Recorded := by
  refine recorded_liftM fun r hr => ?_
  obtain ⟨s, -, rfl⟩ := mapError_eq_error_iff.1 hr
  exact Refusal.not_isRejection_signal s

end Traced

namespace Engine

variable {engine : Engine} {terms : LoanTerms}

theorem requireOrder_recorded (previous : Date) (dueDates : List Date) :
    (requireOrder previous dueDates).Recorded := by
  induction dueDates generalizing previous with
  | nil => exact Traced.recorded_of_outcome_ok rfl
  | cons due rest ih => exact (Traced.recorded_require _ _).bind fun _ _ => ih due

theorem check_recorded (terms : LoanTerms) (dueDates : List Date) (perYear : Decimal) :
    (check terms dueDates perYear).Recorded := by
  refine (Traced.recorded_require _ _).bind fun _ _ => ?_
  refine (Traced.recorded_require _ _).bind fun _ _ => ?_
  refine (Traced.recorded_liftM_signal _).bind fun _ _ => ?_
  refine (Traced.recorded_require _ _).bind fun _ _ => ?_
  refine (Traced.recorded_require _ _).bind fun _ _ => ?_
  refine (Traced.recorded_liftM_signal _).bind fun _ _ => ?_
  refine (Traced.recorded_require _ _).bind fun _ _ => ?_
  refine (Traced.recorded_liftM_signal _).bind fun _ _ => ?_
  refine (Traced.recorded_require _ _).bind fun _ _ => ?_
  exact requireOrder_recorded _ _

theorem reportDrift_recorded (last : LastShares) : (reportDrift last).Recorded := by
  refine (Traced.recorded_liftM_signal _).bind fun _ _ => ?_
  refine (Traced.recorded_liftM_signal _).bind fun _ _ => ?_
  split <;> exact Traced.recorded_of_outcome_ok rfl

theorem collectLast_recorded (terms : LoanTerms) (s : Shares) (p : Progress) (due : Date) :
    (collectLast terms s p due).Recorded := by
  refine (Traced.recorded_liftM_money _).bind fun last _ => ?_
  refine (reportDrift_recorded last).bind fun _ _ => ?_
  refine (Traced.recorded_liftM_signal _).bind fun _ _ => ?_
  refine (Traced.recorded_require _ _).bind fun _ _ => ?_
  exact Traced.recorded_liftM_money _

theorem compute_recorded (engine : Engine) (terms : LoanTerms) (dueDates : List Date)
    (perYear : Decimal) : (engine.compute terms dueDates perYear).Recorded := by
  refine (check_recorded terms dueDates perYear).bind fun _ hcheck => ?_
  -- past the checks there is a repayment to share the loan out to
  have hpos := (check_eq_ok_iff.1 hcheck).repayments_pos
  have hshares : ∀ r, engine.shares terms perYear = .error r → ¬r.IsRejection :=
    fun r hr => (shares_eq_error (by omega) hr).not_isRejection
  refine (Traced.recorded_liftM hshares).bind fun s _ => ?_
  refine (Traced.recorded_of_outcome_ok rfl).bind fun _ _ => ?_
  refine (Traced.recorded_liftM_signal _).bind fun payout _ => ?_
  refine (Traced.recorded_liftM_money _).bind fun even _ => ?_
  have hschedule : ∀ full, (liftM (schedule terms s full) : Traced Schedule).Recorded :=
    fun full => Traced.recorded_liftM_money _
  split
  · exact (collectLast_recorded terms s even _).bind fun full _ => hschedule full
  · exact (Traced.recorded_of_outcome_ok rfl).bind fun full _ => hschedule full

theorem dueDates_events_of_error {r : Refusal} (h : terms.dueDates.outcome = .error r) :
    terms.dueDates.events = [] := by
  rw [LoanTerms.dueDates_outcome] at h
  exact Traced.events_bind_of_error (t := liftM (terms.layOutDates.mapError TermsError.raised)) h

theorem dueDates_events_of_ok {dates : List Date} (h : terms.dueDates.outcome = .ok dates) :
    ∀ e ∈ terms.dueDates.events, ∃ count first last, e = .datesLaidOut count first last := by
  rw [LoanTerms.dueDates_outcome] at h
  have hevents : terms.dueDates.events = _ :=
    Traced.events_bind_of_ok (t := liftM (terms.layOutDates.mapError TermsError.raised)) h
  rw [hevents]
  intro e he
  rcases List.mem_append.1 he with he | he
  · cases he
  · split at he
    · rcases List.mem_append.1 he with he | he
      · exact ⟨_, _, _, List.mem_singleton.1 he⟩
      · cases he
    · cases he

/-- That dates have been laid out does not tell that a unit is unknown. -/
theorem not_tells_unmappedUnit (count : Nat) (first last : Date) (name : Text) :
    ¬(Event.datesLaidOut count first last).Tells (Refusal.unmappedUnit name).message := by
  intro h
  have hsaid : (Refusal.unmappedUnit name).message.holds 'N' = true := by
    rw [Refusal.message, Text.holds_append]
    rfl
  -- neither the words of the event nor its numbers have this letter
  have hnumeral : ∀ cs : List Char, (∀ c ∈ cs, isNumeral c) →
      (String.ofList cs : Text).holds 'N' = false := fun cs hcs =>
    Bool.eq_false_iff.2 fun hmem => absurd (hcs _ (Text.holds_ofList_iff.1 hmem)) (by decide)
  have hmessage : (Event.datesLaidOut count first last).message.holds 'N' = false := by
    simp only [Event.message, Text.holds_append, natText, Date.iso,
      hnumeral _ (isNumeral_digits count), hnumeral _ first.isNumeral_isoChars,
      hnumeral _ last.isNumeral_isoChars]
    rfl
  rw [Text.holds_iff] at hsaid
  exact Bool.eq_false_iff.1 hmessage (Text.holds_iff.2 (h.message.subset hsaid))

theorem generate_recorded (engine : Engine) {dates : List Date} {u : PeriodUnit}
    (hdates : terms.dueDates.outcome = .ok dates) (hunit : terms.termFrequency = .unit u) :
    (engine.generate terms).Recorded := by
  refine (Traced.recorded_of_outcome_ok hdates).bind fun _ _ => ?_
  rw [hunit]
  refine (Traced.recorded_of_outcome_ok rfl).bind fun perYear _ => ?_
  refine (compute_recorded engine terms _ perYear).bind fun _ _ => ?_
  exact Traced.recorded_of_outcome_ok rfl

theorem not_recorded_of_dueDates {cause : TermsError} (engine : Engine)
    (h : terms.dueDates.outcome = .error (.terms cause)) :
    ¬(engine.generate terms).Recorded := by
  intro hrecorded
  obtain ⟨e, he, -⟩ := hrecorded _ (generate_eq_error_iff.2 (.inl h)) (.inl rfl)
  rw [generate, Traced.events_bind_of_error h, dueDates_events_of_error h] at he
  cases he

theorem not_recorded_of_unit {dates : List Date} {name : Text} (engine : Engine)
    (hdates : terms.dueDates.outcome = .ok dates)
    (hname : terms.termFrequency = .unsupported name) : ¬(engine.generate terms).Recorded := by
  have hunit : periodsPerYear terms.termFrequency = .error (.unmappedUnit name) := by
    rw [hname]
    rfl
  intro hrecorded
  obtain ⟨e, he, htells⟩ := hrecorded _
    (generate_eq_error_iff.2 (.inr ⟨dates, hdates, .inl hunit⟩)) (.inr rfl)
  rw [generate, Traced.events_bind_of_ok hdates,
    Traced.events_bind_of_error (t := liftM (periodsPerYear terms.termFrequency)) hunit] at he
  rcases List.mem_append.1 he with he | he
  · obtain ⟨count, first, last, rfl⟩ := dueDates_events_of_ok hdates e he
    exact not_tells_unmappedUnit count first last name htells
  · cases he

theorem recorded_of_refusesLongCount (engine : Engine) (h : terms.RefusesLongCount) :
    (engine.generate terms).Recorded := by
  intro r hr hrejection
  have hgenerate : (engine.generate terms).outcome = .error (.input .longNumeral) :=
    generate_eq_error_iff.2 (.inl h.dueDates)
  cases hgenerate.symm.trans hr
  exact absurd hrejection Refusal.not_isRejection_longNumeral

/-- Whatever an engine itself turns down is on record, for all due dates; on the whole way to a
schedule that is so exactly for terms whose due dates are laid out and whose unit is known, and for
those that are not turned down since it takes a count with too many digits to say why. -/
theorem rejections_recorded_iff (engine : Engine) (terms : LoanTerms) :
    (∀ dueDates perYear, (engine.compute terms dueDates perYear).Recorded) ∧
      ((engine.generate terms).Recorded ↔ terms.RefusesLongCount ∨
        (∃ dates, terms.dueDates.outcome = .ok dates) ∧ ∃ u, terms.termFrequency = .unit u) := by
  refine ⟨compute_recorded engine terms, fun hrecorded => ?_, ?_⟩
  · cases hdates : terms.dueDates.outcome with
    | error r =>
      rcases LoanTerms.dueDates_eq_error hdates with ⟨-, cause, rfl⟩ | ⟨hlong, -⟩
      · exact absurd hrecorded (not_recorded_of_dueDates engine hdates)
      · exact .inl hlong
    | ok dates =>
      cases hunit : terms.termFrequency with
      | unsupported name => exact absurd hrecorded (not_recorded_of_unit engine hdates hunit)
      | unit u => exact .inr ⟨⟨dates, rfl⟩, u, rfl⟩
  · rintro (hlong | ⟨⟨_, hdates⟩, _, hunit⟩)
    · exact recorded_of_refusesLongCount engine hlong
    · exact generate_recorded engine hdates hunit

theorem not_recorded_noRepayments :
    ¬(generate {} { longLoan with repayments := 0 }).Recorded := by
  have hdates : ({ longLoan with repayments := 0 } : LoanTerms).dueDates.outcome =
      .error (.terms (.repayments 0)) := rfl
  exact not_recorded_of_dueDates {} hdates

end Engine
end AddOnLoan
