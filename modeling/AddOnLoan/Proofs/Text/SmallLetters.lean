import AddOnLoan.Text.Case
import Mathlib

namespace AddOnLoan

/-- Ranges without letters that have a small form or are one. -/
def caselessRanges : List (Nat × Nat) := [
    (0x9, 0x40), (0x5b, 0x60), (0x7b, 0xbf), (0x590, 0x109f), (0x1400, 0x1c8f), (0x2000, 0x2125),
    (0x3000, 0xa63f), (0xa800, 0xab52), (0xabc0, 0xff20), (0x10450, 0x104af), (0x10d00, 0x1189f),
    (0x118e0, 0x16e3f), (0x16e80, 0x1e8ff), (0x1e944, 0x10ffff)]

def isPowerMark (c : Char) : Bool := c == 'e' || c == 'E'

/-- Whether a character has no case, or is the mark of a power of ten. -/
def isPlainInNumber (c : Char) : Bool := inRanges caselessRanges c || isPowerMark c

def AllPlain (s : List Char) : Prop := ∀ c ∈ s, isPlainInNumber c

def smallMark (c : Char) : Char := if c = 'E' then 'e' else c

def CaseRun.small (r : CaseRun) (n : Nat) : Nat := (n + r.shift).toNat

theorem CaseRun.small_mono (r : CaseRun) {m n : Nat} (h : m ≤ n) : r.small m ≤ r.small n := by
  unfold small
  omega

/-- Neither the letters of a run nor their small forms lie in a range without case. -/
theorem runs_apart : ∀ r ∈ lowerRuns, ∀ range ∈ caselessRanges,
    (r.last < range.1 ∨ range.2 < r.first) ∧
      (r.small r.last < range.1 ∨ range.2 < r.small r.first) := by
  decide +kernel

theorem runs_marks : ∀ r ∈ lowerRuns, (r.small r.last < 0x45 ∨ 0x45 < r.small r.first) ∧
    (r.small r.last < 0x65 ∨ 0x65 < r.small r.first ∨ r.shift = 32) := by
  decide +kernel

theorem lowerLetter_eq (c : Char) : lowerLetter c = c ∨ ∃ r ∈ lowerRuns, r.first ≤ c.toNat ∧
    c.toNat ≤ r.last ∧ lowerLetter c = Char.ofNat (r.small c.toNat) := by
  unfold lowerLetter
  dsimp only
  split
  · next r hr =>
    have hin := List.find?_some hr
    simp only [Bool.and_eq_true, decide_eq_true_eq] at hin
    exact .inr ⟨r, List.mem_of_find?_eq_some hr, hin.1.1, hin.1.2, rfl⟩
  · exact .inl rfl

theorem inRanges_iff {ranges : List (Nat × Nat)} {c : Char} :
    inRanges ranges c ↔ ∃ range ∈ ranges, range.1 ≤ c.toNat ∧ c.toNat ≤ range.2 := by
  simp only [inRanges, List.any_eq_true, Bool.and_eq_true, decide_eq_true_eq]

theorem lowerLetter_of_caseless {c : Char} (h : inRanges caselessRanges c) :
    lowerLetter c = c := by
  obtain ⟨range, hrange, hlow, hhigh⟩ := inRanges_iff.1 h
  rcases lowerLetter_eq c with hc | ⟨r, hr, hfirst, hlast, -⟩
  · exact hc
  · have := (runs_apart r hr range hrange).1
    omega

theorem lowerLetter_of_plain {c : Char} (h : isPlainInNumber c) :
    lowerLetter c = smallMark c := by
  rw [isPlainInNumber, isPowerMark, Bool.or_eq_true, Bool.or_eq_true, beq_iff_eq, beq_iff_eq] at h
  rcases h with h | rfl | rfl
  · have hmark : c ≠ 'E' := by
      rintro rfl
      exact absurd h (by decide)
    rw [lowerLetter_of_caseless h, smallMark, if_neg hmark]
  · decide +kernel
  · decide +kernel

section

variable {r : CaseRun} {n : Nat} (hr : r ∈ lowerRuns) (hfirst : r.first ≤ n) (hlast : n ≤ r.last)
include hr hfirst hlast

/-- No letter of a run has a small form without case. A number that stands for no character stands
for the first, which is in no such range. -/
theorem not_caseless_small : ¬inRanges caselessRanges (Char.ofNat (r.small n)) := by
  intro h
  obtain ⟨range, hrange, hlow, hhigh⟩ := inRanges_iff.1 h
  have hpos : ∀ range ∈ caselessRanges, 0 < range.1 := by decide
  have hpos := hpos range hrange
  have hapart := (runs_apart r hr range hrange).2
  have hsmall := r.small_mono hfirst
  have hsmall' := r.small_mono hlast
  rw [Char.toNat_ofNat] at hlow hhigh
  split at hlow <;> split at hhigh <;> omega

theorem eq_of_isPowerMark_small (h : isPowerMark (Char.ofNat (r.small n))) : n = 0x45 := by
  obtain ⟨hlarge, hmark⟩ := runs_marks r hr
  have hsmall := r.small_mono hfirst
  have hsmall' := r.small_mono hlast
  have hcode : (Char.ofNat (r.small n)).toNat = 0x65 ∨ (Char.ofNat (r.small n)).toNat = 0x45 := by
    rw [isPowerMark, Bool.or_eq_true, beq_iff_eq, beq_iff_eq] at h
    rcases h with h | h <;> rw [h]
    · exact .inl rfl
    · exact .inr rfl
  rw [Char.toNat_ofNat] at hcode
  split at hcode
  · rcases hmark with hmark | hmark | hshift
    · omega
    · omega
    · have hn : r.small n = n + 32 := by
        rw [CaseRun.small, hshift]
        omega
      omega
  · omega

end

theorem plain_of_lowerLetter {c : Char} (h : isPlainInNumber (lowerLetter c)) :
    isPlainInNumber c := by
  rcases lowerLetter_eq c with hc | ⟨r, hr, hfirst, hlast, hc⟩
  · rwa [hc] at h
  rw [hc, isPlainInNumber, Bool.or_eq_true] at h
  rcases h with h | h
  · exact absurd h (not_caseless_small hr hfirst hlast)
  · have hE : c.toNat = 'E'.toNat := eq_of_isPowerMark_small hr hfirst hlast h
    rw [Char.toNat_inj.1 hE]
    decide

/-- Text without the two letters whose small forms take more than the letter itself: a sigma is
written differently at the end of a word, and a dotted I takes two characters. -/
def AllSimple (s : List Char) : Prop := ∀ c ∈ s, c ≠ 'Σ' ∧ c ≠ 'İ'

variable {before s : List Char}

theorem AllPlain.simple (h : AllPlain s) : AllSimple s := by
  intro c hc
  have hplain := h c hc
  constructor <;>
  · rintro rfl
    exact absurd hplain (by decide)

theorem lowerAfter_of_simple (h : AllSimple s) : lowerAfter before s = s.map lowerLetter := by
  induction s generalizing before with
  | nil => rfl
  | cons c s ih =>
    obtain ⟨⟨hsigma, hdotted⟩, hs⟩ := List.forall_mem_cons.1 h
    rw [lowerAfter, if_neg hsigma, if_neg hdotted, ih hs, List.map_cons, List.singleton_append]

/-- The two letters leave their traces in the small form. -/
theorem simple_of_lowerAfter
    (h : ∀ c ∈ lowerAfter before s, c ≠ 'ς' ∧ c ≠ 'σ' ∧ c ≠ '\u0307') : AllSimple s := by
  induction s generalizing before with
  | nil => nofun
  | cons c s ih =>
    rw [lowerAfter, List.forall_mem_append] at h
    obtain ⟨hc, hs⟩ := h
    refine List.forall_mem_cons.2 ⟨⟨?_, ?_⟩, ih hs⟩
    · rintro rfl
      rw [if_pos rfl] at hc
      split at hc
      · exact (hc _ (List.mem_singleton_self _)).1 rfl
      · exact (hc _ (List.mem_singleton_self _)).2.1 rfl
    · rintro rfl
      rw [if_neg (by decide), if_pos rfl] at hc
      exact (hc _ (List.mem_cons_of_mem _ (List.mem_singleton_self _))).2.2 rfl

theorem lowerAfter_of_plain (h : AllPlain s) :
    lowerAfter before s = s.map smallMark := by
  rw [lowerAfter_of_simple h.simple]
  exact List.map_congr_left fun c hc => lowerLetter_of_plain (h c hc)

theorem plain_of_lowerAfter (h : AllPlain (lowerAfter before s)) : AllPlain s := by
  have hsimple : AllSimple s := simple_of_lowerAfter fun c hc => by
    have hplain := h c hc
    refine ⟨?_, ?_, ?_⟩ <;>
    · rintro rfl
      exact absurd hplain (by decide)
  rw [lowerAfter_of_simple hsimple] at h
  exact fun c hc => plain_of_lowerLetter (h _ (List.mem_map_of_mem hc))

end AddOnLoan
