import AddOnLoan.Entry
import AddOnLoan.Proofs.Decimal.Reading
import AddOnLoan.Proofs.Outcome

namespace AddOnLoan
namespace Entry

variable {s : List Char} {t : Text} {x : Decimal}

def numberOf? (s : List Char) : Option Decimal :=
  (Decimal.read? (strip (withoutCommas s))).filter (·.isFinite)

theorem number_eq_ok_iff : number t = .ok x ↔ numberOf? t.chars = some x := by
  unfold number numberOf?
  cases Decimal.read? (strip (withoutCommas t.chars)) with
  | none => exact ⟨nofun, nofun⟩
  | some y =>
    dsimp only
    rw [Option.filter_some]
    split
    · simp
    · exact ⟨nofun, nofun⟩

theorem plain_of_numberOf (h : numberOf? s = some x) : AllPlain s := by
  obtain ⟨hread, hx⟩ := Option.filter_eq_some_iff.1 h
  exact plain_of_filter (by decide) (plain_of_strip (Decimal.plain_of_read hread hx))

theorem numberOf?_strip (s : List Char) : numberOf? (strip s) = numberOf? s := by
  unfold numberOf? withoutCommas strip
  rw [stripOf_filter_stripOf]

theorem numberOf?_withoutCommas (s : List Char) : numberOf? (withoutCommas s) = numberOf? s := by
  unfold numberOf? withoutCommas
  rw [List.filter_filter]
  simp only [Bool.and_self]

theorem numberOf?_smallMark (s : List Char) : numberOf? (s.map smallMark) = numberOf? s := by
  unfold numberOf? withoutCommas
  rw [Decimal.filter_smallMark (by decide), Decimal.strip_smallMark, Decimal.read?_smallMark]

/-- A number stays the same in small letters, and nothing else becomes one. -/
theorem numberOf?_lower (s : List Char) : numberOf? (lower s) = numberOf? s := by
  by_cases hs : AllPlain s
  · rw [lower, lowerAfter_of_plain hs, numberOf?_smallMark]
  · have hlower : ¬AllPlain (lower s) := fun h => hs (plain_of_lowerAfter h)
    rw [Option.eq_none_iff_forall_ne_some.2 fun x h => hlower (plain_of_numberOf h),
      Option.eq_none_iff_forall_ne_some.2 fun x h => hs (plain_of_numberOf h)]

theorem number_ne_ok_of_rest (h : t.rest ≠ []) : number t ≠ .ok x := fun hx =>
  absurd (plain_of_numberOf (number_eq_ok_iff.1 hx) _ (Text.mem_chars_of_rest_ne_nil h))
    (by decide)

def amountText (t : Text) : Text := t.strip.lower.mapPlain withoutCommas

/-- Whether an amount ends in a letter for thousands or millions. -/
def endsInScale (t : Text) : Bool :=
  (amountText t).points.getLast? == some (.char 'k') ||
    (amountText t).points.getLast? == some (.char 'm')

theorem number_amountText : number (amountText t) = .ok x ↔ number t = .ok x := by
  by_cases ht : t.rest = []
  · obtain ⟨s, rfl⟩ := Text.exists_ofString ht
    rw [number_eq_ok_iff, number_eq_ok_iff, amountText, Text.strip_ofString]
    have hchars : ((String.ofList (strip s.toList) : Text).lower.mapPlain withoutCommas).chars =
        withoutCommas (lower (strip s.toList)) := by
      simp [Text.lower, Text.mapPlain, Text.chars, Text.toString]
    rw [hchars, numberOf?_withoutCommas, numberOf?_lower, numberOf?_strip]
    rfl
  · have hrest : (amountText t).rest ≠ [] := by
      simpa [amountText, Text.lower, Text.mapPlain] using Text.strip_rest_ne_nil ht
    exact iff_of_false (number_ne_ok_of_rest hrest) (number_ne_ok_of_rest ht)

theorem amount_of_scale {body : Text}
    (h : scale (t.strip.lower.mapPlain withoutCommas) = (1, body)) :
    amount t = (number body).mapError fun _ => .notANumber body := by
  unfold amount
  rw [h]
  dsimp only
  cases number body with
  | ok x =>
    dsimp only
    rw [if_pos rfl, mapError_ok]
  | error e => rfl

theorem amount_eq_ok_iff (h : endsInScale t = false) : amount t = .ok x ↔ number t = .ok x := by
  simp only [endsInScale, Bool.or_eq_false_iff, beq_eq_false_iff_ne] at h
  have hscale : scale (t.strip.lower.mapPlain withoutCommas) = (1, amountText t) := by
    unfold scale
    split
    · next hlast => exact absurd hlast h.1
    · next hlast => exact absurd hlast h.2
    · rfl
  rw [← number_amountText, amount_of_scale hscale, mapError_eq_ok_iff]

theorem not_isEmpty_of_number (h : number t = .ok x) : t.strip.isEmpty = false := by
  by_contra hempty
  have hchars := Text.strip_chars_of_isEmpty (Bool.not_eq_false _ ▸ hempty)
  rw [number_eq_ok_iff, ← numberOf?_strip, hchars] at h
  cases h

theorem not_isEmpty_of_dateText {d : Date} (h : dateText t = .ok d) :
    t.strip.isEmpty = false := by
  by_contra hempty
  have hchars := Text.strip_chars_of_isEmpty (Bool.not_eq_false _ ▸ hempty)
  rw [dateText, Date.read?, hchars] at h
  cases h

end Entry
end AddOnLoan
