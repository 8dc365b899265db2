import AddOnLoan.Proofs.Outcome
import AddOnLoan.Web.Settings

namespace AddOnLoan
namespace Settings

variable {settings : Settings}

/-- Settings of the kinds that are asked for: whole numbers for the digits of the rate and the most
repayments. -/
structure Valid (settings : Settings) : Prop where
  rounding : settings.engine.rounding = some .halfEven
  precision : ∃ digits, settings.engine.ratePrecision = some digits
  most : ∃ n, settings.maxRepayments = .int n

theorem valid_default : ({} : Settings).Valid :=
  ⟨rfl, ⟨8, rfl⟩, ⟨1200, rfl⟩⟩

theorem engineOf_int_eq_ok {n : Int} {rounding : Option Rounding} {engine : Engine}
    (h : engineOf (.int n) rounding = .ok engine) :
    engine.rounding = rounding ∧ ∃ digits, engine.ratePrecision = some digits := by
  have hbelow : (Json.int n).isBelow? 1 = some (decide (n < 1)) := rfl
  unfold engineOf at h
  rw [hbelow] at h
  by_cases hn : n < 1
  · rw [decide_eq_true hn] at h
    cases h
  · rw [decide_eq_false hn] at h
    change (Engine.make? n rounding).mapError Refusal.input = .ok engine at h
    have hmake := mapError_eq_ok_iff.1 h
    rw [Engine.make?, dif_pos (by omega)] at hmake
    cases hmake
    exact ⟨rfl, _, rfl⟩

theorem exists_int_of_field {overrides : List (Text × Json)} {name : String} (n : Int)
    (h : ∀ v, Json.field? overrides name = some v → ∃ n, v = .int n) :
    ∃ k, (Json.field? overrides name).getD (.int n) = .int k := by
  cases hfield : Json.field? overrides name with
  | none => exact ⟨n, rfl⟩
  | some v => exact h v hfield

theorem valid_of_make {entries overrides : List (Text × Json)}
    (hprecision : ∀ v, Json.field? overrides "RATE_PRECISION" = some v → ∃ n, v = .int n)
    (hmost : ∀ v, Json.field? overrides "MAX_REPAYMENTS" = some v → ∃ n, v = .int n)
    (h : make? entries overrides = .ok settings) : settings.Valid := by
  obtain ⟨environment, -, h⟩ := bind_eq_ok_iff.1 h
  obtain ⟨precision, -, h⟩ := bind_eq_ok_iff.1 h
  obtain ⟨most, -, h⟩ := bind_eq_ok_iff.1 h
  obtain ⟨engine, hengine, h⟩ := bind_eq_ok_iff.1 h
  -- the environment gives whole numbers, so only what overrides them can be anything else
  obtain ⟨n, hn⟩ := exists_int_of_field precision hprecision
  rw [hn] at hengine
  obtain ⟨hrounding, hdigits⟩ := engineOf_int_eq_ok hengine
  cases h
  exact ⟨hrounding, hdigits, exists_int_of_field most hmost⟩

end Settings
end AddOnLoan
