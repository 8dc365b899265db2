import AddOnLoan.CommandLine.Files
import AddOnLoan.Proofs.Text.Points

namespace AddOnLoan

variable {path : Text}

theorem splitSlashes_eq {points : List CodePoint} (h : .char '/' ∉ points) :
    splitSlashes points = [points] := by
  induction points with
  | nil => rfl
  | cons point points ih =>
    rw [List.mem_cons, not_or] at h
    rw [splitSlashes, if_neg (Ne.symm h.1), ih h.2]

theorem pathParts_eq (h : path.holds '/' = false) :
    pathParts path = if path = "" ∨ path = "." then [] else [path] := by
  have hslash : CodePoint.char '/' ∉ path.points := fun hmem =>
    Bool.eq_false_iff.1 h (Text.holds_iff.2 hmem)
  rw [pathParts, splitSlashes_eq hslash, List.map_singleton, Text.ofPoints_points,
    List.filter_singleton]
  by_cases hempty : path = "" ∨ path = "."
  · rw [if_pos hempty]
    rcases hempty with rfl | rfl <;> rfl
  · rw [if_neg hempty]
    rw [not_or] at hempty
    rw [bne_iff_ne.2 hempty.1, bne_iff_ne.2 hempty.2]
    rfl

theorem plainPath_eq (h : path.holds '/' = false) (hempty : path.isEmpty = false) :
    plainPath path = path := by
  have hslash : path.startsWith "/" = false := Text.startsWith_eq_false (by decide) h
  have hslashes : path.startsWith "//" = false := Text.startsWith_eq_false (by decide) h
  rw [plainPath, hslash, hslashes]
  simp only [Bool.false_and, Bool.false_eq_true, if_false, Text.empty_append]
  by_cases hpoint : path = "."
  · rw [hpoint]
    rfl
  · have hparts : pathParts path = [path] := by
      rw [pathParts_eq h, if_neg]
      rintro (rfl | hpath)
      exacts [absurd hempty (by decide), hpoint hpath]
    rw [hparts, Text.intercalate, hempty, if_neg Bool.false_ne_true]

end AddOnLoan
