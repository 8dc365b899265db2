import AddOnLoan.Trace
import Mathlib

namespace AddOnLoan

theorem bind_eq_ok_iff {x : Except ε α} {f : α → Except ε β} {b : β} :
    x >>= f = .ok b ↔ ∃ a, x = .ok a ∧ f a = .ok b := by
  cases x with
  | error e => exact ⟨nofun, fun ⟨_, h, _⟩ => nomatch h⟩
  | ok a => exact ⟨fun h => ⟨a, rfl, h⟩, fun ⟨_, h, hb⟩ => by cases h; exact hb⟩

theorem bind_eq_error_iff {x : Except ε α} {f : α → Except ε β} {e : ε} :
    x >>= f = .error e ↔ x = .error e ∨ ∃ a, x = .ok a ∧ f a = .error e := by
  cases x with
  | error e' =>
    refine ⟨fun h => .inl (by cases h; rfl), ?_⟩
    rintro (h | ⟨_, h, _⟩)
    · cases h; rfl
    · cases h
  | ok a =>
    refine ⟨fun h => .inr ⟨a, rfl, h⟩, ?_⟩
    rintro (h | ⟨_, h, he⟩)
    · cases h
    · cases h; exact he

theorem ok_bind (a : α) (f : α → Except ε β) : Except.ok a >>= f = f a := rfl

theorem bind_fst_eq_ok_iff {x : Except ε (α × β)} {f : α → Except ε γ} {c : γ} {b : β} :
    (x >>= fun found => f found.1 >>= fun c => .ok (c, found.2)) = .ok (c, b) ↔
      ∃ a, x = .ok (a, b) ∧ f a = .ok c := by
  simp only [bind_eq_ok_iff, Except.ok.injEq, Prod.mk.injEq]
  constructor
  · rintro ⟨⟨a, _⟩, hx, _, hc, rfl, rfl⟩
    exact ⟨a, hx, hc⟩
  · rintro ⟨a, hx, hc⟩
    exact ⟨(a, b), hx, c, hc, rfl, rfl⟩

theorem mapError_ok (a : α) (f : ε → ε') : (Except.ok a).mapError f = .ok a := rfl

theorem mapError_eq_ok_iff {x : Except ε α} {f : ε → ε'} {a : α} :
    x.mapError f = .ok a ↔ x = .ok a := by
  cases x <;> simp [Except.mapError]

theorem mapError_eq_error_iff {x : Except ε α} {f : ε → ε'} {e' : ε'} :
    x.mapError f = .error e' ↔ ∃ e, x = .error e ∧ f e = e' := by
  cases x <;> simp [Except.mapError]

theorem map_eq_error_iff {x : Except ε α} {f : α → β} {e : ε} :
    f <$> x = .error e ↔ x = .error e := by
  cases x <;> simp [Functor.map, Except.map]

theorem exists_ok_of_isSome {x : Except ε α} (h : x.toOption.isSome) : ∃ a, x = .ok a := by
  cases x with
  | ok a => exact ⟨a, rfl⟩
  | error e => cases h

/-- A result has one property, or it is refused for a cause that has another. -/
structure Yields (x : Except ε α) (Result : α → Prop) (Cause : ε → Prop) : Prop where
  result : ∀ {a}, x = .ok a → Result a
  cause : ∀ {e}, x = .error e → Cause e

namespace Yields

variable {x : Except ε α} {f : α → Except ε β} {P : α → Prop} {Q : β → Prop} {E : ε → Prop}

theorem ok {a : α} (h : P a) : Yields (.ok a) P E :=
  ⟨fun ha => by cases ha; exact h, nofun⟩

theorem error {e : ε} (h : E e) : Yields (.error e) P E :=
  ⟨nofun, fun he => by cases he; exact h⟩

theorem mono {P' : α → Prop} {E' : ε → Prop} (hx : Yields x P E) (hP : ∀ a, P a → P' a)
    (hE : ∀ e, E e → E' e) : Yields x P' E' :=
  ⟨fun h => hP _ (hx.result h), fun h => hE _ (hx.cause h)⟩

theorem mono_cause {E' : ε → Prop} (hx : Yields x P E) (hE : ∀ e, E e → E' e) : Yields x P E' :=
  hx.mono (fun _ h => h) hE

protected theorem bind (hx : Yields x P E) (hf : ∀ a, P a → Yields (f a) Q E) :
    Yields (x >>= f) Q E := by
  cases x with
  | ok a => exact hf a (hx.result rfl)
  | error e => exact .error (hx.cause rfl)

theorem ok_bind {a : α} (hx : x = .ok a) (hf : Yields (f a) Q E) : Yields (x >>= f) Q E := by
  rw [hx]
  exact hf

protected theorem mapError {g : ε → ε'} {E' : ε' → Prop} (hx : Yields x P fun e => E' (g e)) :
    Yields (x.mapError g) P E' := by
  cases x with
  | ok a => exact .ok (hx.result rfl)
  | error e => exact .error (hx.cause rfl)

protected theorem map {g : α → β} (hx : Yields x (fun a => Q (g a)) E) : Yields (g <$> x) Q E := by
  cases x with
  | ok a => exact .ok (hx.result rfl)
  | error e => exact .error (hx.cause rfl)

/-- What every step keeps holds all along a run, up to where it is refused. -/
theorem foldlM {f : β → α → Except ε β} {l : List α} {b : β}
    (step : ∀ b a, Q b → Yields (f b a) Q E) (hb : Q b) : Yields (l.foldlM f b) Q E := by
  induction l generalizing b with
  | nil => exact .ok hb
  | cons a l ih =>
    rw [List.foldlM_cons]
    exact (step b a hb).bind fun _ => ih

end Yields

theorem invariant_of_foldlM {f : β → α → Except ε β} {P : β → Prop}
    (step : ∀ b a b', P b → f b a = .ok b' → P b') {l : List α} {b b' : β}
    (h : l.foldlM f b = .ok b') (hb : P b) : P b' :=
  (Yields.foldlM (E := fun _ => True)
    (fun b a hb => ⟨fun h => step b a _ hb h, fun _ => trivial⟩) hb).result h

theorem traced_of_foldlM {f : β → α → Except ε β} {P : List α → β → Prop}
    (step : ∀ done b a b', P done b → f b a = .ok b' → P (done ++ [a]) b') {l : List α} {b b' : β}
    (h : l.foldlM f b = .ok b') (hb : P [] b) : P l b' := by
  induction l using List.reverseRecOn generalizing b' with
  | nil =>
    cases h
    exact hb
  | append_singleton l a ih =>
    rw [List.foldlM_append] at h
    obtain ⟨last, hlast, h⟩ := bind_eq_ok_iff.1 h
    rw [List.foldlM_cons] at h
    obtain ⟨_, hnext, h⟩ := bind_eq_ok_iff.1 h
    cases h
    exact step l last a _ (ih hlast) hnext

/-- What every step carries on from one number to the next holds at the end of a run of `n` steps
for a number greater by `n`. -/
theorem counted_of_foldlM {f : β → α → Except ε β} {P : Nat → β → Prop}
    (step : ∀ k b a b', P k b → f b a = .ok b' → P (k + 1) b') {k : Nat} {l : List α} {b b' : β}
    (h : l.foldlM f b = .ok b') (hb : P k b) : P (k + l.length) b' := by
  refine traced_of_foldlM (P := fun done => P (k + done.length)) ?_ h hb
  intro done b a b' hdone hb'
  rw [List.length_append, ← Nat.add_assoc]
  exact step _ b a b' hdone hb'

/-- Two runs of the same length whose steps keep a relation between them end up in it. -/
theorem related_of_foldlM {f : β → α → Except ε β} {g : β' → α' → Except ε β'}
    {R : β → β' → Prop}
    (step : ∀ b b' a a' c c', R b b' → f b a = .ok c → g b' a' = .ok c' → R c c')
    {l : List α} {l' : List α'} {b c : β} {b' c' : β'} (hlength : l.length = l'.length)
    (h : l.foldlM f b = .ok c) (h' : l'.foldlM g b' = .ok c') (hb : R b b') : R c c' := by
  induction l generalizing b b' l' with
  | nil =>
    cases List.eq_nil_of_length_eq_zero hlength.symm
    cases h
    cases h'
    exact hb
  | cons a l ih =>
    obtain ⟨a', rest, rfl⟩ := List.exists_cons_of_length_eq_add_one hlength.symm
    rw [List.foldlM_cons] at h h'
    obtain ⟨next, hnext, h⟩ := bind_eq_ok_iff.1 h
    obtain ⟨next', hnext', h'⟩ := bind_eq_ok_iff.1 h'
    exact ih (Nat.succ.inj hlength) h h' (step b b' a a' next next' hb hnext hnext')

theorem exists_foldlM {f : β → α → Except ε β} {P : Nat → β → Prop} {most : Nat}
    (step : ∀ k b a, k < most → P k b → ∃ b', f b a = .ok b' ∧ P (k + 1) b') {k : Nat}
    {l : List α} {b : β} (hl : k + l.length ≤ most) (hb : P k b) :
    ∃ b', l.foldlM f b = .ok b' ∧ P (k + l.length) b' := by
  induction l generalizing k b with
  | nil => exact ⟨b, rfl, hb⟩
  | cons a l ih =>
    rw [List.length_cons, ← Nat.add_assoc, Nat.add_right_comm] at hl ⊢
    obtain ⟨next, hnext, hP⟩ := step k b a (by omega) hb
    obtain ⟨b', hb', hP'⟩ := ih hl hP
    exact ⟨b', by rw [List.foldlM_cons, hnext]; exact hb', hP'⟩

namespace Traced

@[simp]
theorem outcome_pure (a : α) : (pure a : Traced α).outcome = .ok a := rfl

@[simp]
theorem outcome_bind (t : Traced α) (f : α → Traced β) :
    (t >>= f).outcome = t.outcome >>= fun a => (f a).outcome := by
  change (Traced.bind t f).outcome = _
  unfold Traced.bind
  cases t.outcome <;> rfl

@[simp]
theorem outcome_report (e : Event) : (report e).outcome = .ok () := rfl

@[simp]
theorem outcome_liftM (x : Except Refusal α) : (liftM x : Traced α).outcome = x := rfl

@[simp]
theorem outcome_liftM_money (x : Except MoneyError α) :
    (liftM x : Traced α).outcome = x.mapError .money := rfl

@[simp]
theorem outcome_liftM_signal (x : Except Signal α) :
    (liftM x : Traced α).outcome = x.mapError .signal := rfl

theorem outcome_require_eq_ok_iff {condition : Bool} {e : TermsError} {u : Unit} :
    (require condition e).outcome = .ok u ↔ e.isWritable = true ∧ condition = true := by
  unfold require
  cases e.isWritable <;> cases condition <;> simp [Traced.pure, reject]

theorem outcome_require_eq_error_iff {condition : Bool} {e : TermsError} {r : Refusal} :
    (require condition e).outcome = .error r ↔
      ¬(e.isWritable = true ∧ condition = true) ∧ r = e.raised := by
  unfold require TermsError.raised
  cases e.isWritable <;> cases condition <;> simp [Traced.pure, reject, eq_comm]

theorem require_yields (condition : Bool) (e : TermsError) :
    Yields (require condition e).outcome (fun _ => e.isWritable = true ∧ condition = true)
      (fun r => ¬(e.isWritable = true ∧ condition = true) ∧ r = e.raised) :=
  ⟨outcome_require_eq_ok_iff.1, outcome_require_eq_error_iff.1⟩

theorem outcome_require_of_isWritable (condition : Bool) {e : TermsError}
    (h : e.isWritable = true) :
    (require condition e).outcome = if condition then .ok () else .error (.terms e) := by
  unfold require
  cases condition <;> simp [h, Traced.pure, reject]

theorem require_yields_of_isWritable (condition : Bool) (e : TermsError)
    (h : e.isWritable = true) :
    Yields (require condition e).outcome (fun _ => condition = true)
      (fun r => condition = false ∧ r = .terms e) := by
  rw [outcome_require_of_isWritable condition h]
  cases condition with
  | true => exact .ok rfl
  | false => exact .error ⟨rfl, rfl⟩

end Traced

namespace TermsError

variable {e : TermsError}

theorem raised_eq_terms_iff {e' : TermsError} :
    e.raised = .terms e' ↔ e.isWritable = true ∧ e = e' := by
  unfold raised
  cases e.isWritable <;> simp

theorem raised_cases (e : TermsError) :
    e.isWritable = true ∧ e.raised = .terms e ∨
      e.isWritable = false ∧ e.raised = .input .longNumeral := by
  unfold raised
  cases e.isWritable <;> simp

end TermsError
end AddOnLoan
