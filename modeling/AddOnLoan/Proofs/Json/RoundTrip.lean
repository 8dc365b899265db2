import AddOnLoan.Json.Encoding
import AddOnLoan.Json.Printer
import AddOnLoan.Proofs.Decimal.RoundTrip
import AddOnLoan.Proofs.Json.Fields
import AddOnLoan.Proofs.Outcome
import AddOnLoan.Proofs.Text.Points

namespace AddOnLoan

namespace CodePoint

variable {p q : CodePoint}

/-- Two halves that are one character where they stand side by side in units of sixteen bits. -/
def Pairs (p q : CodePoint) : Prop :=
  0xd800 ≤ p.number ∧ p.number < 0xdc00 ∧ 0xdc00 ≤ q.number ∧ q.number < 0xe000

theorem toNat_cases (c : Char) : c.toNat < 0xd800 ∨ 0xdfff < c.toNat ∧ c.toNat < 0x110000 :=
  c.valid

theorem ofNat_number (p : CodePoint) : ofNat p.number = p := by
  cases p with
  | char c =>
    have hvalid := toNat_cases c
    rw [number, ofNat, dif_neg (by omega), Char.ofNat_toNat]
  | half h =>
    rw [number, ofNat, dif_pos ⟨Nat.le_add_right _ _, by simp only [Half.unit]; omega⟩]
    simp only [Half.unit, Nat.add_sub_cancel_left]

/-- The ways in which units stand for a code point. -/
inductive Spells : CodePoint → List CodeUnit → Prop
  | whole (p : CodePoint) : Spells p [.whole p]
  | unit (p : CodePoint) : Spells p [.unit p.number]
  | pair {high low : Nat} {c : Char} (hhigh : 0xd800 ≤ high ∧ high < 0xdc00)
    (hlow : 0xdc00 ≤ low ∧ low < 0xe000)
    (hc : c.toNat = 0x10000 + (high - 0xd800) * 0x400 + (low - 0xdc00)) :
    Spells (.char c) [.unit high, .unit low]

/-- What stands in front of other units is told apart from them, unless it is half of a pair. -/
theorem Spells.ofUnits_append {units rest : List CodeUnit} (h : Spells p units)
    (hrest : ∀ low tail, rest = .unit low :: tail → 0xdc00 ≤ low → low < 0xe000 →
      ¬(0xd800 ≤ p.number ∧ p.number < 0xdc00)) :
    ofUnits (units ++ rest) = p :: ofUnits rest := by
  cases h with
  | whole => rw [List.singleton_append, ofUnits]
  | unit =>
    match rest with
    | [] =>
      rw [List.append_nil, ofUnits, ofNat_number]
      nofun
    | .whole q :: tail =>
      rw [List.singleton_append, ofUnits, ofNat_number]
      nofun
    | .unit low :: tail =>
      rw [List.singleton_append, ofUnits, ofNat_number, if_neg]
      rintro ⟨hhigh, hhigh', hlow, hlow'⟩
      exact hrest low tail rfl hlow hlow' ⟨hhigh, hhigh'⟩
  | pair hhigh hlow hc =>
    rw [List.cons_append, List.singleton_append, ofUnits,
      if_pos ⟨hhigh.1, hhigh.2, hlow.1, hlow.2⟩, ← hc, Char.ofNat_toNat]

theorem Spells.low_of_head {units rest tail : List CodeUnit} {low : Nat} (h : Spells q units)
    (hunits : units ++ rest = .unit low :: tail) (hlow : 0xdc00 ≤ low) (hlow' : low < 0xe000) :
    q.number = low := by
  cases h with
  | whole => cases hunits
  | unit =>
    cases hunits
    rfl
  | pair hhigh =>
    cases hunits
    omega

/-- Code points of which no two are a pair are what the units that spell them stand for. -/
theorem ofUnits_flatten {points : List CodePoint} {spelled : List (List CodeUnit)}
    (hspells : List.Forall₂ Spells points spelled)
    (hpairs : points.IsChain fun p q => ¬p.Pairs q) : ofUnits spelled.flatten = points := by
  induction hspells with
  | nil => rfl
  | @cons p units points spelled hp hrest ih =>
    rw [List.flatten_cons, hp.ofUnits_append, ih (List.isChain_of_isChain_cons hpairs)]
    intro low tail htail hlow hlow' hhigh
    cases hrest with
    | nil => cases htail
    | cons hq _ =>
      have hnumber := hq.low_of_head htail hlow hlow'
      exact (List.isChain_cons_cons.1 hpairs).1
        ⟨hhigh.1, hhigh.2, hnumber ▸ hlow, hnumber ▸ hlow'⟩

end CodePoint

namespace Json

variable {s rest : List CodePoint}

theorem hexValue?_hexDigit {d : Nat} (h : d < 16) : hexValue? (.char (hexDigit d)) = some d := by
  interval_cases d <;> rfl

theorem hexUnit?_hex {n : Nat} (h : n < 0x10000) :
    hexUnit? ((hex 4 n).map .char) = some n := by
  simp only [hex, List.nil_append, List.cons_append, List.map_cons, List.map_nil, hexUnit?,
    List.mapM_cons, List.mapM_nil, hexValue?_hexDigit (Nat.mod_lt _ (by decide : 0 < 16))]
  simp
  omega

theorem readUnits?_escapeUnit {n : Nat} (h : n < 0x10000) :
    readUnits? ((escapeUnit n).map .char ++ s) =
      (readUnits? s).map fun (units, rest) => (.unit n :: units, rest) := by
  have hhex := hexUnit?_hex h
  simp only [escapeUnit, hex, List.nil_append, List.cons_append, List.map_cons, List.map_nil,
    readUnits?] at hhex ⊢
  rw [hhex]
  cases readUnits? s <;> rfl

theorem readUnits?_whole {c : Char} (hquote : c ≠ '"') (hslash : c ≠ '\\') (h : 0x20 ≤ c.toNat) :
    readUnits? (.char c :: s) =
      (readUnits? s).map fun (units, rest) => (.whole (.char c) :: units, rest) := by
  have hcontrol : ¬(CodePoint.char c).toChar.toNat < 0x20 := Nat.not_lt.2 h
  have hplain : CodePoint.char c ≠ .char '\\' := fun heq => hslash (CodePoint.char.inj heq)
  rw [readUnits?, if_neg hcontrol]
  · exact fun heq => hquote (CodePoint.char.inj heq)
  · exact fun _ _ _ _ _ heq => absurd heq hplain
  · exact fun _ _ heq => absurd heq hplain
  · exact hplain

theorem readUnits?_escape {letter c : Char} (hletter : letter ≠ 'u')
    (h : escape? letter = some c) : readUnits? (.char '\\' :: .char letter :: s) =
      (readUnits? s).map fun (units, rest) => (.whole (.char c) :: units, rest) := by
  rw [readUnits?, h]
  · cases readUnits? s <;> rfl
  · exact fun _ _ _ _ _ _ => hletter

/-- However a code point is escaped, it is spelled by what is read, whatever follows. -/
theorem exists_spelling (p : CodePoint) : ∃ units, p.Spells units ∧ ∀ s,
    readUnits? ((escapePoint p).map .char ++ s) =
      (readUnits? s).map fun (more, rest) => (units ++ more, rest) := by
  cases p with
  | half h =>
    have hunit : h.unit < 0x10000 := by
      simp only [Half.unit]
      omega
    exact ⟨_, .unit (.half h), fun s => readUnits?_escapeUnit hunit⟩
  | char c =>
    rw [escapePoint]
    unfold escapeChar
    split
    case h_8 =>
      dsimp only
      have hvalid := CodePoint.toNat_cases c
      split
      · exact ⟨_, .whole _, fun s => readUnits?_whole ‹_› ‹_› (by omega)⟩
      · split
        · exact ⟨_, .unit (.char c), fun s => readUnits?_escapeUnit (by omega)⟩
        · have hhigh : 0xd800 + (c.toNat - 0x10000) / 0x400 < 0xdc00 := by omega
          have hlow : 0xdc00 + (c.toNat - 0x10000) % 0x400 < 0xe000 := by omega
          refine ⟨_, .pair ⟨Nat.le_add_right _ _, hhigh⟩ ⟨Nat.le_add_right _ _, hlow⟩ (by omega),
            fun s => ?_⟩
          rw [List.map_append, List.append_assoc, readUnits?_escapeUnit (by omega),
            readUnits?_escapeUnit (by omega), Option.map_map]
          rfl
    all_goals exact ⟨_, .whole _, fun s => readUnits?_escape (by decide) rfl⟩

theorem exists_spelled (points : List CodePoint) (s : List CodePoint) : ∃ spelled,
    List.Forall₂ CodePoint.Spells points spelled ∧
      readUnits? ((points.flatMap escapePoint).map .char ++ .char '"' :: s) =
        some (spelled.flatten, s) := by
  induction points with
  | nil => exact ⟨[], .nil, by simp [readUnits?]⟩
  | cons p points ih =>
    obtain ⟨spelled, hspells, hread⟩ := ih
    obtain ⟨units, hunits, hfirst⟩ := exists_spelling p
    refine ⟨units :: spelled, .cons hunits hspells, ?_⟩
    rw [List.flatMap_cons, List.map_append, List.append_assoc, hfirst, hread]
    rfl

end Json

/-- No two halves that stand side by side are a pair. -/
def Text.IsUnpaired (t : Text) : Prop := t.points.IsChain fun p q => ¬p.Pairs q

theorem Text.isUnpaired_ofString (s : String) : (s : Text).IsUnpaired := by
  rw [IsUnpaired, points_ofString, List.isChain_map]
  refine (List.pairwise_of_forall fun c c' hpairs => ?_).isChain
  have hvalid := CodePoint.toNat_cases c
  simp only [CodePoint.Pairs, CodePoint.number] at hpairs
  omega

namespace Json

variable {t : Text} {n : Int} {s : List CodePoint}

theorem readText?_string (ht : t.IsUnpaired) (s : List CodePoint) :
    readText? ((t.points.flatMap escapePoint).map .char ++ .char '"' :: s) = some (t, s) := by
  obtain ⟨spelled, hspells, hread⟩ := exists_spelled t.points s
  rw [readText?, hread, Option.map_some]
  dsimp only
  rw [CodePoint.ofUnits_flatten hspells ht, Text.ofPoints_points]

theorem head_digits {n : Nat} (hn : 0 < n) : (digits n).head? ≠ some '0' := by
  induction n using Nat.strongRecOn with
  | ind n ih =>
    rcases Nat.lt_or_ge n 10 with h | h
    · rw [digits_of_lt h]
      interval_cases n <;> decide
    · rw [digits_of_le h, List.head?_append_of_ne_nil _ (Decimal.digits_ne_nil _)]
      exact ih (n / 10) (by omega) (by omega)

theorem readWhole_digits (n : Nat) :
    readWhole (digits n) = ((digits n).filterMap asciiDigit?, []) := by
  rcases Nat.eq_zero_or_pos n with rfl | hpos
  · rw [digits_of_lt (by decide)]
    rfl
  · unfold readWhole
    split
    · next hrest => exact absurd (congrArg List.head? hrest) (head_digits hpos)
    · exact Decimal.spanDigits_digits n

theorem readNumber?_digits (negative : Bool) (n : Nat) : readNumber? negative (digits n) =
    if digitCount n ≤ longestNumeral then some (.int (Decimal.signed negative n), []) else none := by
  have hlength : ((digits n).filterMap asciiDigit?).length = digitCount n := by
    rw [length_digitValues (isDigit_digits n), length_digits]
  have hne : ((digits n).filterMap asciiDigit?).isEmpty = false :=
    List.isEmpty_eq_false_iff.2
      (Decimal.values_ne_nil (isDigit_digits n) (Decimal.digits_ne_nil n))
  simp only [readNumber?, readWhole_digits, hne, hlength, readPlaces, readPower,
    digitsValue_digits, List.isEmpty_nil, Option.isNone_none, if_true, Bool.false_eq_true, if_false,
    and_self]
  split_ifs <;> first | rfl | omega

theorem toList_intText (n : Int) : (intText n).toList =
    if n < 0 then '-' :: digits n.natAbs else digits n.natAbs := by
  unfold intText
  split <;> simp [natText]

theorem find?_words_intText (n : Int) (s : List CodePoint) : words.find? (fun (word, _) =>
    word.points.isPrefixOf ((intText n).toList.map .char ++ s)) = none := by
  obtain ⟨c, cs, hdigits⟩ := List.exists_cons_of_ne_nil (Decimal.digits_ne_nil n.natAbs)
  have hc : c.isDigit := isDigit_digits n.natAbs c (hdigits ▸ List.mem_cons_self)
  have hne (letter : Char) (hletter : letter.isDigit = false) : letter ≠ c := by
    rintro rfl
    exact Bool.false_ne_true (hletter.symm.trans hc)
  rw [toList_intText, hdigits]
  split <;> simp [words, Text.points, hne]

theorem isInNumber_intText (n : Int) : ∀ p ∈ (intText n).toList.map .char, isInNumber p := by
  have hdigits (k : Nat) : ∀ c ∈ digits k, isInNumber (.char c) := fun c hc => by
    rw [isInNumber, isDigit_digits k c hc]
    rfl
  rw [List.forall_mem_map, toList_intText]
  split
  · exact List.forall_mem_cons.2 ⟨rfl, hdigits _⟩
  · exact hdigits _

theorem readSigned?_intText (n : Int) : readSigned? (intText n).toList =
    if fitsNumeral n then some (.int n, []) else none := by
  have hsigned (negative : Bool) (h : Decimal.signed negative n.natAbs = n) :
      (if digitCount n.natAbs ≤ longestNumeral then
        some (Json.int (Decimal.signed negative n.natAbs), ([] : List Char)) else none) =
          if fitsNumeral n then some (.int n, []) else none := by
    rw [h, fitsNumeral]
    simp only [decide_eq_true_eq]
  rw [toList_intText]
  split
  · rw [readSigned?, readNumber?_digits]
    exact hsigned true (by rw [Decimal.signed]; simp only [if_true]; omega)
  · have hhead : ∀ rest, digits n.natAbs ≠ '-' :: rest := fun rest hrest => by
      have hdigit := isDigit_digits n.natAbs '-' (hrest ▸ List.mem_cons_self)
      exact absurd hdigit (by decide)
    rw [readSigned?, readNumber?_digits]
    · exact hsigned false (by rw [Decimal.signed]; simp only [Bool.false_eq_true, if_false]; omega)
    · exact hhead

theorem exists_intText (n : Int) : ∃ c cs, (intText n).toList = c :: cs := by
  apply List.exists_cons_of_ne_nil
  rw [toList_intText]
  split
  · exact List.cons_ne_nil _ _
  · exact Decimal.digits_ne_nil _

theorem readScalar?_intText (hs : ∀ p ∈ s.head?, isInNumber p = false) :
    readScalar? ((intText n).toList.map .char ++ s) =
      if fitsNumeral n then some (.int n, s) else none := by
  have hchars : ((intText n).toList.map CodePoint.char).map (·.toChar) = (intText n).toList := by
    rw [List.map_map]
    exact List.map_id _
  unfold readScalar?
  rw [find?_words_intText]
  dsimp only
  split
  · next rest hrest =>
    -- a number does not begin with a quote
    obtain ⟨c, cs, hc⟩ := exists_intText n
    have hnumber := isInNumber_intText n (.char c) (by rw [hc]; exact List.mem_cons_self)
    rw [hc] at hrest
    cases hrest
    cases hnumber
  · rw [takeWhile_append_of_head (isInNumber_intText n) hs,
      dropWhile_append_of_head (isInNumber_intText n) hs, hchars, readSigned?_intText]
    split <;> rfl

theorem isUnpaired_key {given : List (String × Option Json)} {field : Text × Json}
    (h : field ∈ givenFields given) : field.1.IsUnpaired := by
  obtain ⟨⟨name, value⟩, -, hvalue⟩ := List.mem_filterMap.1 h
  obtain ⟨v, -, rfl⟩ := Option.map_eq_some_iff.1 hvalue
  exact Text.isUnpaired_ofString name

/-- Texts and whole numbers. Only a whole number can be too long to be read. -/
inductive IsPlain : Json → Prop
  | text {t : Text} (ht : t.IsUnpaired) : IsPlain (.text t)
  | int (n : Int) : IsPlain (.int n)

variable {v : Json} {gap : String} {room bound : Nat}

theorem readScalar?_text (ht : t.IsUnpaired) (s : List CodePoint) :
    readScalar? ((string t).toList.map .char ++ s) = some (.text t, s) := by
  have hpoints : (string t).toList.map CodePoint.char ++ s =
      .char '"' :: ((t.points.flatMap escapePoint).map .char ++ .char '"' :: s) := by
    simp [string]
  have hwords (rest : List CodePoint) :
      words.find? (fun (word, _) => word.points.isPrefixOf (.char '"' :: rest)) = none := by
    simp [words, Text.points]
  rw [hpoints, readScalar?, hwords]
  change (readText? _).map (fun found => (Json.text found.1, found.2)) = _
  rw [readText?_string ht]
  rfl

theorem readScalar?_line (hv : v.IsPlain) (hs : ∀ p ∈ s.head?, isInNumber p = false) :
    readScalar? ((v.line gap).toList.map .char ++ s) =
      if v.isWritable then some (v, s) else none := by
  cases hv with
  | text ht => exact readScalar?_text ht s
  | int n => exact readScalar?_intText hs

theorem line_ne_cons (hv : v.IsPlain) {opening : Char}
    (hopening : opening = '[' ∨ opening = '{') (rest : List CodePoint) :
    (v.line gap).toList.map .char ++ s ≠ .char opening :: rest := by
  cases hv with
  | text =>
    intro h
    simp only [line, scalar, string, String.toList_ofList, List.cons_append, List.map_cons] at h
    cases h
    rcases hopening with h | h <;> cases h
  | int n =>
    obtain ⟨c, cs, hc⟩ := exists_intText n
    have hnumber := isInNumber_intText n (.char c) (by rw [hc]; exact List.mem_cons_self)
    intro h
    rw [line, scalar, hc] at h
    · cases h
      rcases hopening with rfl | rfl <;> cases hnumber
    all_goals nofun

theorem readValue_line (hv : v.IsPlain) (hs : ∀ p ∈ s.head?, isInNumber p = false) :
    readValue room (bound + 1) ((v.line gap).toList.map .char ++ s) =
      if v.isWritable then .ok (v, s) else .error .malformed := by
  rw [readValue, readScalar?_line hv hs]
  · cases v.isWritable <;> rfl
  · exact line_ne_cons hv (.inl rfl)
  · exact line_ne_cons hv (.inr rfl)

variable {key : Text} {fields front : List (Text × Json)}

theorem setField_of_not_mem (h : key ∉ fields.map (·.1)) :
    setField fields key v = fields ++ [(key, v)] := by
  rw [setField, if_neg]
  simpa using h

theorem not_mem_keys (h : ((front ++ (key, v) :: fields).map (·.1)).Nodup) :
    key ∉ front.map (·.1) := by
  rw [List.map_append] at h
  exact fun hmem => (List.nodup_append.1 h).2.2 _ hmem _ (.head _) rfl

def fieldPoints (field : Text × Json) : List CodePoint :=
  (string field.1 ++ ":" ++ " " ++ field.2.line " ").toList.map .char

theorem fieldPoints_append (field : Text × Json) (s : List CodePoint) :
    fieldPoints field ++ s = .char '"' :: ((field.1.points.flatMap escapePoint).map .char ++
      .char '"' :: .char ':' :: .char ' ' :: ((field.2.line " ").toList.map .char ++ s)) := by
  simp [fieldPoints, string]

theorem skipSpace_of_isInNumber {c : Char} (hc : isInNumber (.char c)) (s : List CodePoint) :
    skipSpace (.char c :: s) = .char c :: s := by
  refine List.dropWhile_cons_of_neg fun hspace => ?_
  simp only [List.contains_iff_mem, List.mem_cons, CodePoint.char.injEq, List.not_mem_nil,
    or_false] at hspace
  rcases hspace with rfl | rfl | rfl | rfl <;> cases hc

theorem skipSpace_line (hv : v.IsPlain) (s : List CodePoint) :
    skipSpace (.char ' ' :: ((v.line gap).toList.map .char ++ s)) =
      (v.line gap).toList.map .char ++ s := by
  have hskip (s : List CodePoint) : skipSpace (.char ' ' :: s) = skipSpace s := rfl
  cases hv with
  | text =>
    simp only [line, scalar, string, String.toList_ofList, List.cons_append, List.map_cons]
    rfl
  | int n =>
    obtain ⟨c, cs, hc⟩ := exists_intText n
    have hnumber := isInNumber_intText n (.char c) (by rw [hc]; exact List.mem_cons_self)
    change skipSpace (.char ' ' :: ((intText n).toList.map .char ++ s)) =
      (intText n).toList.map .char ++ s
    rw [hskip, hc]
    exact skipSpace_of_isInNumber hnumber _

theorem readFields_field (hkey : key.IsUnpaired) (hv : v.IsPlain)
    (hnew : key ∉ front.map (·.1)) (hs : ∀ p ∈ s.head?, isInNumber p = false) :
    readFields room (bound + 2) front (fieldPoints (key, v) ++ s) =
      if v.isWritable then
        match skipSpace s with
        | .char '}' :: rest => .ok (front ++ [(key, v)], rest)
        | .char ',' :: rest => readFields room (bound + 1) (front ++ [(key, v)]) (skipSpace rest)
        | _ => .error .malformed
      else .error .malformed := by
  rw [fieldPoints_append, readFields, readText?_string hkey]
  change (readValue room (bound + 1) (skipSpace (.char ' ' :: _)) >>= _) = _
  rw [skipSpace_line hv, readValue_line hv hs]
  cases v.isWritable with
  | false => rfl
  | true =>
    rw [if_pos rfl, if_pos rfl, ok_bind]
    dsimp only
    rw [setField_of_not_mem hnew]
    rfl

/-- The points of fields that follow another one, up to the end of their object. -/
def closing : List (Text × Json) → List CodePoint
  | [] => [.char '}']
  | field :: fields => .char ',' :: .char ' ' :: (fieldPoints field ++ closing fields)

theorem length_lt_closing (fields : List (Text × Json)) :
    fields.length < (closing fields).length := by
  induction fields with
  | nil => exact Nat.zero_lt_one
  | cons field fields ih =>
    simp only [closing, List.length_cons, List.length_append]
    omega

theorem head_closing (fields : List (Text × Json)) :
    ∀ p ∈ (closing fields).head?, isInNumber p = false := by
  cases fields <;> rintro p ⟨⟩ <;> rfl

theorem skipSpace_field (field : Text × Json) (s : List CodePoint) :
    skipSpace (.char ' ' :: (fieldPoints field ++ s)) = fieldPoints field ++ s := by
  rw [fieldPoints_append]
  rfl

/-- Fields are read one after another, up to the end of the object or to a number that is too
long. -/
theorem readFields_line {field : Text × Json}
    (hfields : ∀ f ∈ field :: fields, f.1.IsUnpaired ∧ f.2.IsPlain)
    (hkeys : ((front ++ field :: fields).map (·.1)).Nodup) (hbound : fields.length + 1 < bound) :
    readFields room bound front (fieldPoints field ++ closing fields) =
      if (field :: fields).all (·.2.isWritable) then .ok (front ++ field :: fields, [])
      else .error .malformed := by
  induction fields generalizing field front bound with
  | nil =>
    obtain ⟨key, v⟩ := field
    obtain ⟨bound, rfl⟩ : ∃ more, bound = more + 2 := ⟨bound - 2, by omega⟩
    obtain ⟨hkey, hv⟩ := hfields _ (.head _)
    rw [readFields_field hkey hv (not_mem_keys hkeys) (head_closing [])]
    simp only [List.all_cons, List.all_nil, Bool.and_true]
    rfl
  | cons next fields ih =>
    obtain ⟨key, v⟩ := field
    obtain ⟨bound, rfl⟩ : ∃ more, bound = more + 2 := ⟨bound - 2, by omega⟩
    obtain ⟨⟨hkey, hv⟩, hfields⟩ := List.forall_mem_cons.1 hfields
    rw [readFields_field hkey hv (not_mem_keys hkeys) (head_closing _), List.all_cons]
    by_cases hwritable : v.isWritable = true
    · rw [List.append_cons] at hkeys
      have hrest : readFields room (bound + 1) (front ++ [(key, v)])
          (fieldPoints next ++ closing fields) = _ := ih hfields hkeys (by simpa using hbound)
      rw [← skipSpace_field, ← List.append_cons] at hrest
      rw [if_pos hwritable, hwritable, Bool.true_and]
      exact hrest
    · rw [if_neg hwritable, Bool.eq_false_iff.2 hwritable, Bool.false_and,
        if_neg Bool.false_ne_true]

theorem toList_fields (field : Text × Json) (fields : List (Text × Json)) :
    (", ".intercalate (lineFields " " (field :: fields))).toList.map .char ++ [.char '}'] =
      fieldPoints field ++ closing fields := by
  rw [String.toList_intercalate]
  induction fields generalizing field with
  | nil => simp [lineFields, fieldPoints, closing]
  | cons next fields ih =>
    rw [closing, ← ih next]
    simp [lineFields, fieldPoints]

theorem line_object (field : Text × Json) (fields : List (Text × Json)) :
    ((object (field :: fields)).line " ").toList.map .char =
      .char '{' :: (fieldPoints field ++ closing fields) := by
  rw [line, ← toList_fields]
  simp only [String.toList_append, List.map_append]
  rfl

/-- An object of such values is read back from its line, by a reader with room for one object,
unless a number is too long. -/
theorem read_line {field : Text × Json}
    (hfields : ∀ f ∈ field :: fields, f.1.IsUnpaired ∧ f.2.IsPlain)
    (hkeys : ((field :: fields).map (·.1)).Nodup) (hroom : 0 < room) :
    Json.read room (((object (field :: fields)).line " ").toList.map .char) =
      if (field :: fields).all (·.2.isWritable) then .ok (.object (field :: fields))
      else .error .malformed := by
  have hlength := length_lt_closing fields
  have hread (bound : Nat) (hbound : fields.length + 1 < bound) :
      readFields (room - 1) bound [] (fieldPoints field ++ closing fields) =
        if (field :: fields).all (·.2.isWritable) then .ok (field :: fields, [])
        else .error .malformed :=
    readFields_line hfields hkeys hbound
  have hopen (s : List CodePoint) : skipSpace (.char '{' :: s) = .char '{' :: s := rfl
  have hquote (s : List CodePoint) :
      skipSpace (fieldPoints field ++ s) = fieldPoints field ++ s := by
    rw [fieldPoints_append]
    rfl
  rw [line_object, Json.read, hopen, readValue, if_neg (by omega), hquote]
  rw [fieldPoints_append] at hread ⊢
  change (readFields (room - 1) _ [] _ >>= fun found => Except.ok (object found.1, found.2)) >>= _ =
    _
  rw [hread _ (by simp; omega)]
  split <;> rfl

theorem detect_line (bytes : List UInt8) : Encoding.detect (0x7b :: 0x22 :: bytes) = .utf8 := by
  rcases bytes with _ | ⟨a, _ | ⟨b, bytes⟩⟩ <;> rfl

/-- The bytes of an object begin with those of a brace and a quote, which tell their encoding. -/
theorem bodyPoints?_line (field : Text × Json) (fields : List (Text × Json)) :
    bodyPoints? ((object (field :: fields)).line " ") =
      some (((object (field :: fields)).line " ").toList.map .char) := by
  have hpoints := line_object field fields
  rw [fieldPoints_append] at hpoints
  obtain ⟨chars, hchars⟩ : ∃ chars, ((object (field :: fields)).line " ").toList =
      '{' :: '"' :: chars := by
    obtain ⟨_, _, hline, hbrace, hrest⟩ := List.map_eq_cons_iff.1 hpoints
    obtain ⟨_, chars, rfl, hquote, -⟩ := List.map_eq_cons_iff.1 hrest
    cases hbrace
    cases hquote
    exact ⟨chars, hline⟩
  have hbytes : ((object (field :: fields)).line " " : Text).bytes =
      0x7b :: 0x22 :: (chars.map CodePoint.char).flatMap CodePoint.bytes := by
    rw [Text.bytes, Text.points_ofString, hchars]
    rfl
  rw [bodyPoints?, hbytes, detect_line]
  dsimp only
  rw [hchars]
  rfl

theorem readBody_line (hne : fields ≠ [])
    (hfields : ∀ field ∈ fields, field.1.IsUnpaired ∧ field.2.IsPlain)
    (hkeys : (fields.map (·.1)).Nodup) (hroom : 0 < room) :
    readBody room ((object fields).line " ") =
      if fields.all (·.2.isWritable) then .ok (.object fields) else .error .malformed := by
  obtain ⟨field, rest, rfl⟩ := List.exists_cons_of_ne_nil hne
  rw [readBody, bodyPoints?_line]
  exact read_line hfields hkeys hroom

end Json
end AddOnLoan
