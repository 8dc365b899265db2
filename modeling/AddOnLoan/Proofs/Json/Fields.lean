import AddOnLoan.Json.Basic
import Mathlib

namespace AddOnLoan
namespace Json

variable {fields fields' : List (Text × Json)} {name : String} {v : Json}

theorem field?_eq_some_iff (hkeys : (fields.map (·.1)).Nodup) :
    field? fields name = some v ↔ ((name : Text), v) ∈ fields := by
  rw [field?, Option.map_eq_some_iff]
  constructor
  · rintro ⟨⟨key, value⟩, hfind, rfl⟩
    have hkey := List.find?_some hfind
    rw [← beq_iff_eq.1 hkey]
    exact List.mem_of_find?_eq_some hfind
  · intro hmem
    cases hfind : fields.find? (·.1 == (name : Text)) with
    | none => exact absurd BEq.rfl (List.find?_eq_none.1 hfind _ hmem)
    | some field =>
      have hkey := List.find?_some hfind
      have hfield : field = ((name : Text), v) := List.inj_on_of_nodup_map hkeys
        (List.mem_of_find?_eq_some hfind) hmem (beq_iff_eq.1 hkey)
      exact ⟨field, rfl, by rw [hfield]⟩

def givenFields (fields : List (String × Option Json)) : List (Text × Json) :=
  fields.filterMap fun (name, value) => value.map fun v => (name, v)

variable {given : List (String × Option Json)} {value : Option Json}

theorem mem_givenFields : ((name : Text), v) ∈ givenFields given ↔ (name, some v) ∈ given := by
  simp [givenFields]

theorem forall_givenFields {P : Json → Prop} :
    (∀ field ∈ givenFields given, P field.2) ↔ ∀ field ∈ given, ∀ v, field.2 = some v → P v := by
  simp only [givenFields, List.mem_filterMap, Option.map_eq_some_iff]
  constructor
  · rintro h ⟨name, value⟩ hmem v rfl
    exact h (name, v) ⟨_, hmem, v, rfl, rfl⟩
  · rintro h _ ⟨⟨name, value⟩, hmem, v, rfl, rfl⟩
    exact h _ hmem v rfl

theorem givenFields_keys (hkeys : (given.map (·.1)).Nodup) :
    ((givenFields given).map (·.1)).Nodup := by
  induction given with
  | nil => exact List.nodup_nil
  | cons field given ih =>
    obtain ⟨name, value⟩ := field
    obtain ⟨hname, hgiven⟩ := List.nodup_cons.1 hkeys
    cases value with
    | none => exact ih hgiven
    | some v =>
      refine List.nodup_cons.2 ⟨fun hmem => hname ?_, ih hgiven⟩
      obtain ⟨⟨key, v'⟩, hmem, rfl⟩ := List.mem_map.1 hmem
      exact List.mem_map.2 ⟨_, mem_givenFields.1 hmem, rfl⟩

/-- In whatever order they come, each field holds its value, if it has one. -/
theorem field?_of_givenFields (hkeys : (given.map (·.1)).Nodup)
    (hperm : fields.Perm (givenFields given)) (h : (name, value) ∈ given) :
    field? fields name = value := by
  have hnodup : (fields.map (·.1)).Nodup :=
    (hperm.map _).nodup_iff.2 (givenFields_keys hkeys)
  ext v
  rw [field?_eq_some_iff hnodup, hperm.mem_iff, mem_givenFields]
  constructor
  · intro hv
    cases List.inj_on_of_nodup_map hkeys h hv rfl
    rfl
  · rintro rfl
    exact h

end Json
end AddOnLoan
