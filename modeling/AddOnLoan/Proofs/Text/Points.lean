import AddOnLoan.Proofs.Text.Stripping
import AddOnLoan.Text.Bytes
import AddOnLoan.Text.ControlSequence

namespace AddOnLoan

variable {t : Text} {c : Char}

namespace ControlSequence

variable {s rest : List Char}

theorem subset_of_rest? (h : rest? s = some rest) : rest ⊆ s := by
  unfold rest? at h
  split at h
  · next final behind hbehind =>
    rw [Option.ite_none_right_eq_some, Option.some.injEq] at h
    obtain ⟨-, rfl⟩ := h
    have hsuffix := (List.dropWhile_suffix isMark).trans (List.dropWhile_suffix (l := s) isParameter)
    rw [hbehind] at hsuffix
    exact fun c hc => hsuffix.subset (List.mem_cons_of_mem _ hc)
  · cases h

theorem remove_subset (s : List Char) : remove s ⊆ s := by
  fun_induction remove s with
  | case1 s rest hrest _ ih =>
    exact fun c hc =>
      List.mem_cons_of_mem _ (List.mem_cons_of_mem _ (subset_of_rest? hrest (ih hc)))
  | case2 s _ ih => exact List.cons_subset_cons _ ih
  | case3 c s _ ih => exact List.cons_subset_cons _ ih
  | case4 => exact List.Subset.refl _

end ControlSequence

namespace Text

theorem foldr_consPoint_chars (s : List Char) (parts : List Char × List (Half × String)) :
    (s.map CodePoint.char).foldr consPoint parts = (s ++ parts.1, parts.2) := by
  induction s with
  | nil => rfl
  | cons c s ih => simp [ih, consPoint]

theorem foldr_consPoint_rest (rest : List (Half × String)) :
    (rest.flatMap fun (h, s) => .half h :: s.toList.map CodePoint.char).foldr consPoint ([], []) =
      ([], rest) := by
  induction rest with
  | nil => rfl
  | cons part rest ih =>
    rw [List.flatMap_cons, List.foldr_append, ih, List.foldr_cons, foldr_consPoint_chars]
    simp [consPoint]

theorem ofPoints_points (t : Text) : ofPoints t.points = t := by
  rw [ofPoints, points, List.foldr_append, foldr_consPoint_rest, foldr_consPoint_chars]
  simp

theorem points_inj {t' : Text} : t.points = t'.points ↔ t = t' := by
  refine ⟨fun h => ?_, fun h => h ▸ rfl⟩
  rw [← ofPoints_points t, h, ofPoints_points]

theorem points_ofPoints (points : List CodePoint) : (ofPoints points).points = points := by
  induction points with
  | nil => rfl
  | cons point rest ih => cases point <;> simpa [ofPoints, consPoint, Text.points] using ih

theorem unwritable?_ofString (writable : Half → Bool) (s : String) :
    (s : Text).unwritable? writable = none := by
  have hchars (start : Nat) (cs : List Char) :
      CodePoint.unwritable? writable start (cs.map .char) = none := by
    induction cs generalizing start with
    | nil => rfl
    | cons c cs ih => exact ih (start + 1)
  rw [unwritable?, points_ofString]
  exact hchars 0 s.toList

theorem points_ofLines (lines : List Text) :
    (ofLines lines).points = lines.flatMap fun line => line.points ++ [.char '\n'] := by
  have h (t : Text) : (lines.foldl (fun (t line : Text) => t ++ line ++ "\n") t).points =
      t.points ++ lines.flatMap fun line => line.points ++ [.char '\n'] := by
    induction lines generalizing t with
    | nil => simp
    | cons line lines ih =>
      rw [List.foldl_cons, ih, points_append, points_append, List.flatMap_cons]
      simp [points]
  exact h ""

theorem holds_iff : t.holds c ↔ .char c ∈ t.points := by
  rw [holds, List.contains_iff_mem]

theorem holds_ofList_iff {cs : List Char} : (String.ofList cs : Text).holds c ↔ c ∈ cs := by
  simp [holds_iff, points]

theorem empty_append (t : Text) : ("" : Text) ++ t = t := by
  change Text.mk ("" ++ t.front) t.rest = t
  rw [String.empty_append]

theorem startsWith_eq_false {s : String} (hs : c ∈ s.toList) (h : t.holds c = false) :
    t.startsWith s = false := by
  rw [startsWith, String.startsWith_string_eq_false_iff]
  rintro ⟨rest, hrest⟩
  refine Bool.eq_false_iff.1 h (holds_iff.2 (List.mem_append_left _ (List.mem_map_of_mem ?_)))
  rw [← hrest]
  exact List.mem_append_left _ hs

theorem mem_points_mapPlain {f : List Char → List Char} (hf : ∀ s, f s ⊆ s)
    (h : .char c ∈ (t.mapPlain f).points) : CodePoint.char c ∈ t.points := by
  simp only [points, mapPlain, List.flatMap_map, List.mem_append, List.mem_flatMap, List.mem_map,
    List.mem_cons, CodePoint.char.injEq, exists_eq_right, String.toList_ofList, reduceCtorEq,
    false_or] at h ⊢
  rcases h with h | ⟨part, hpart, h⟩
  · exact .inl (hf _ h)
  · exact .inr ⟨part, hpart, hf _ h⟩

theorem holds_append (t t' : Text) (c : Char) : (t ++ t').holds c = (t.holds c || t'.holds c) := by
  simp only [holds, points_append, List.contains_append]

/-- Nothing is put into a text when control sequences are left out. -/
theorem holds_withoutControls (h : t.holds c = false) : t.withoutControls.holds c = false := by
  rw [Bool.eq_false_iff, Ne, holds_iff] at h ⊢
  exact fun hmem => h (mem_points_mapPlain ControlSequence.remove_subset hmem)

end Text
end AddOnLoan
