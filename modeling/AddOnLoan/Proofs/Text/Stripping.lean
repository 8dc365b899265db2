import AddOnLoan.Text.Blank
import Mathlib

namespace AddOnLoan

variable {p : α → Bool} {s a b : List α}

theorem dropTrailing_append (hb : ∀ c ∈ b, p c) : dropTrailing p (s ++ b) = dropTrailing p s := by
  have hb' : ∀ c ∈ b.reverse, p c := fun c hc => hb c (List.mem_reverse.1 hc)
  rw [dropTrailing, List.reverse_append, List.dropWhile_append_of_pos hb', dropTrailing]

theorem stripOf_eq_nil (hs : ∀ c ∈ s, p c) : stripOf p s = [] := by
  rw [stripOf, List.dropWhile_eq_nil_iff.2 hs]
  rfl

theorem stripOf_around (ha : ∀ c ∈ a, p c) (hb : ∀ c ∈ b, p c) :
    stripOf p (a ++ s ++ b) = stripOf p s := by
  rw [List.append_assoc]
  by_cases hs : ∀ c ∈ s, p c
  · rw [stripOf_eq_nil hs, stripOf_eq_nil]
    simp only [List.mem_append]
    rintro c (hc | hc | hc)
    exacts [ha c hc, hs c hc, hb c hc]
  · have hne : (s.dropWhile p).isEmpty = false := by
      rw [Bool.eq_false_iff, Ne, List.isEmpty_iff, List.dropWhile_eq_nil_iff]
      exact hs
    rw [stripOf, List.dropWhile_append_of_pos ha, List.dropWhile_append, hne,
      if_neg Bool.false_ne_true, dropTrailing_append hb, stripOf]

theorem exists_around (p : α → Bool) (s : List α) :
    ∃ a b, s = a ++ stripOf p s ++ b ∧ (∀ c ∈ a, p c) ∧ ∀ c ∈ b, p c := by
  refine ⟨s.takeWhile p, ((s.dropWhile p).reverse.takeWhile p).reverse, ?_,
    fun c hc => List.mem_takeWhile_imp hc,
    fun c hc => List.mem_takeWhile_imp (List.mem_reverse.1 hc)⟩
  rw [stripOf, dropTrailing, List.append_assoc, ← List.reverse_append,
    List.takeWhile_append_dropWhile, List.reverse_reverse, List.takeWhile_append_dropWhile]

theorem dropWhile_append_kept (hkept : ∀ c ∈ b, p c = false) (hne : b ≠ []) :
    (a ++ b).dropWhile p = a.dropWhile p ++ b := by
  obtain ⟨c, b, rfl⟩ := List.exists_cons_of_ne_nil hne
  have hc : ¬p c := Bool.eq_false_iff.1 (hkept c List.mem_cons_self)
  rw [List.dropWhile_append, List.dropWhile_cons_of_neg hc]
  split
  · next hempty => rw [List.isEmpty_iff.1 hempty, List.nil_append]
  · rfl

theorem stripOf_append_kept {kept : List α} (hkept : ∀ c ∈ kept, p c = false) (hne : kept ≠ [])
    (hb : ∀ c ∈ b, p c) : stripOf p (a ++ kept ++ b) = a.dropWhile p ++ kept := by
  have haround := stripOf_around (s := a ++ kept) (a := []) nofun hb
  rw [List.nil_append] at haround
  obtain ⟨c, front, hback⟩ := List.exists_cons_of_ne_nil (List.reverse_ne_nil_iff.2 hne)
  have hc : ¬p c :=
    Bool.eq_false_iff.1 (hkept c (List.mem_reverse.1 (hback ▸ List.mem_cons_self)))
  rw [haround, stripOf, dropWhile_append_kept hkept hne, dropTrailing, List.reverse_append, hback,
    List.cons_append, List.dropWhile_cons_of_neg hc, ← List.cons_append, ← hback,
    ← List.reverse_append, List.reverse_reverse]

/-- What is stripped in the end may be stripped before anything is left out. -/
theorem stripOf_filter_stripOf (keep : α → Bool) :
    stripOf p ((stripOf p s).filter keep) = stripOf p (s.filter keep) := by
  obtain ⟨a, b, hs, ha, hb⟩ := exists_around p s
  conv_rhs => rw [hs, List.filter_append, List.filter_append]
  exact (stripOf_around (fun c hc => ha c (List.mem_of_mem_filter hc))
    fun c hc => hb c (List.mem_of_mem_filter hc)).symm

theorem stripOf_map {q : β → Bool} {f : α → β} (h : ∀ c, q (f c) = p c) :
    stripOf q (s.map f) = (stripOf p s).map f := by
  have hq : q ∘ f = p := funext h
  rw [stripOf, dropTrailing, List.dropWhile_map, ← List.map_reverse, List.dropWhile_map,
    ← List.map_reverse, hq, stripOf, dropTrailing]

namespace Text

variable {t : Text}

theorem exists_ofString (h : t.rest = []) : ∃ s : String, t = s :=
  ⟨t.front, by rw [← h]⟩

theorem points_ofString (s : String) : (s : Text).points = s.toList.map .char := by
  rw [points, List.flatMap_nil, List.append_nil]

theorem strip_ofString (s : String) :
    (s : Text).strip = (String.ofList (AddOnLoan.strip s.toList) : Text) := by
  have hblank : ∀ c, CodePoint.isBlank (.char c) = isBlank c := fun _ => rfl
  rw [strip, points_ofString, stripOf_map hblank, ofPoints_chars, AddOnLoan.strip]

theorem mem_chars_of_rest_ne_nil (h : t.rest ≠ []) : '\ufffd' ∈ t.chars := by
  have hfold : ∀ (rest : List (Half × String)) (s : String),
      s.toList ⊆ (rest.foldl (fun s part => s ++ "\ufffd" ++ part.2) s).toList := by
    intro rest
    induction rest with
    | nil => exact fun s => List.Subset.refl _
    | cons part rest ih =>
      intro s
      refine List.Subset.trans ?_ (ih _)
      simp
  obtain ⟨part, rest, hrest⟩ := List.exists_cons_of_ne_nil h
  rw [chars, toString, hrest, List.foldl_cons]
  exact hfold rest _ (by simp)

theorem ofPoints_rest_ne_nil {h : Half} {points : List CodePoint} (hmem : .half h ∈ points) :
    (ofPoints points).rest ≠ [] := by
  change (points.foldr consPoint ([], [])).2 ≠ []
  induction points with
  | nil => cases hmem
  | cons point points ih =>
    cases point with
    | half h => exact List.cons_ne_nil _ _
    | char c =>
      have htail := (List.mem_cons.1 hmem).resolve_left nofun
      exact ih htail

theorem exists_half (h : t.rest ≠ []) : ∃ half, CodePoint.half half ∈ t.points := by
  obtain ⟨⟨half, behind⟩, rest, hrest⟩ := List.exists_cons_of_ne_nil h
  exact ⟨half, by simp [points, hrest]⟩

theorem strip_rest_ne_nil (h : t.rest ≠ []) : t.strip.rest ≠ [] := by
  obtain ⟨half, hmem⟩ := exists_half h
  obtain ⟨a, b, hpoints, ha, hb⟩ := exists_around CodePoint.isBlank t.points
  rw [hpoints] at hmem
  simp only [List.mem_append] at hmem
  rcases hmem with (hmem | hmem) | hmem
  · exact absurd (ha _ hmem) Bool.false_ne_true
  · exact ofPoints_rest_ne_nil hmem
  · exact absurd (hb _ hmem) Bool.false_ne_true

theorem strip_chars_of_isEmpty (h : t.strip.isEmpty) : AddOnLoan.strip t.chars = [] := by
  rw [isEmpty, Bool.and_eq_true, List.isEmpty_iff] at h
  obtain ⟨s, rfl⟩ := exists_ofString (not_not.1 fun hrest => strip_rest_ne_nil hrest h.2)
  rw [strip_ofString] at h
  have hempty : AddOnLoan.strip s.toList = [] := by simpa using h.1
  exact hempty

end Text
end AddOnLoan
