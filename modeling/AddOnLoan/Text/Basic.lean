namespace AddOnLoan

/-- Half of a surrogate pair, counted from the first of them. -/
abbrev Half := Fin 0x800

namespace Half

def unit (h : Half) : Nat := 0xd800 + h

/-- Whether a half stands for a byte that could not be read as text. -/
def isByte (h : Half) : Bool := 0xdc80 ≤ h.unit && h.unit < 0xdd00

end Half

inductive CodePoint where
  | char (c : Char)
  | half (h : Half)
  deriving DecidableEq, Repr

namespace CodePoint

def ofNat (n : Nat) : CodePoint :=
  if h : 0xd800 ≤ n ∧ n < 0xe000 then .half ⟨n - 0xd800, by omega⟩ else .char (Char.ofNat n)

def number : CodePoint → Nat
  | .char c => c.toNat
  | .half h => h.unit

def toChar : CodePoint → Char
  | .char c => c
  | .half _ => '\ufffd'

end CodePoint

/-- What text in code units of sixteen bits is made of: units, and code points that are whole. -/
inductive CodeUnit where
  | unit (n : Nat)
  | whole (point : CodePoint)
  deriving DecidableEq, Repr

/-- The code points of such text: two units that make a pair are joined. -/
def CodePoint.ofUnits : List CodeUnit → List CodePoint
  | .unit high :: .unit low :: rest =>
    if 0xd800 ≤ high ∧ high < 0xdc00 ∧ 0xdc00 ≤ low ∧ low < 0xe000 then
      .char (Char.ofNat (0x10000 + (high - 0xd800) * 0x400 + (low - 0xdc00))) :: ofUnits rest
    else .ofNat high :: ofUnits (.unit low :: rest)
  | .unit n :: rest => .ofNat n :: ofUnits rest
  | .whole point :: rest => point :: ofUnits rest
  | [] => []

/-- Plain text up to the first half, then every half with the plain text behind it. -/
structure Text where
  front : String
  rest : List (Half × String) := []
  deriving DecidableEq, Repr

namespace Text

instance : Coe String Text := ⟨fun s => ⟨s, []⟩⟩

def consPoint (point : CodePoint) (parts : List Char × List (Half × String)) :
    List Char × List (Half × String) :=
  match point with
  | .char c => (c :: parts.1, parts.2)
  | .half h => ([], (h, String.ofList parts.1) :: parts.2)

def ofPoints (points : List CodePoint) : Text :=
  let parts := points.foldr consPoint ([], [])
  ⟨String.ofList parts.1, parts.2⟩

def points (t : Text) : List CodePoint :=
  t.front.toList.map .char ++
    t.rest.flatMap fun (h, s) => .half h :: s.toList.map .char

def isEmpty (t : Text) : Bool := t.front.isEmpty && t.rest.isEmpty

def holds (t : Text) (c : Char) : Bool := t.points.contains (.char c)

def toString (t : Text) : String :=
  t.rest.foldl (fun s (_, behind) => s ++ "\ufffd" ++ behind) t.front

/-- The characters for a reader: what stands for a half is no blank, no digit and no letter. -/
def chars (t : Text) : List Char := t.toString.toList

def startsWith (t : Text) (s : String) : Bool := t.front.startsWith s

/-- A text behind plain text `front` and the halves of `rest`. -/
def appendTo (t : Text) (front : String) : List (Half × String) → Text
  | [] => ⟨front ++ t.front, t.rest⟩
  | (h, s) :: rest =>
    let tail := appendTo t s rest
    ⟨front, (h, tail.front) :: tail.rest⟩

instance : Append Text := ⟨fun s t => appendTo t s.front s.rest⟩

def intercalate (separator : Text) : List Text → Text
  | [] => ""
  | [t] => t
  | t :: rest => t ++ separator ++ intercalate separator rest

def ofLines (lines : List Text) : Text := lines.foldl (fun t line => t ++ line ++ "\n") ""

def mapPlain (f : List Char → List Char) (t : Text) : Text :=
  let part (s : String) : String := String.ofList (f s.toList)
  ⟨part t.front, t.rest.map fun (h, s) => (h, part s)⟩

theorem ofPoints_chars (s : List Char) :
    ofPoints (s.map .char) = (String.ofList s : Text) := by
  have h : (s.map CodePoint.char).foldr consPoint ([], []) = (s, []) := by
    induction s with
    | nil => rfl
    | cons c s ih => simp [ih, consPoint]
  simp [ofPoints, h]

theorem toString_ofString (s : String) : (s : Text).toString = s := rfl

theorem points_appendTo (t : Text) (front : String) (rest : List (Half × String)) :
    (appendTo t front rest).points = points ⟨front, rest⟩ ++ t.points := by
  induction rest generalizing front with
  | nil => simp [appendTo, points]
  | cons part rest ih =>
    have h := ih part.2
    simp only [points] at h
    simp [appendTo, points, h]

/-- Halves are kept apart: what ends one text and what begins the next are never joined. -/
theorem points_append (s t : Text) : (s ++ t).points = s.points ++ t.points :=
  points_appendTo t s.front s.rest

theorem chars_eq (t : Text) : t.chars = t.points.map CodePoint.toChar := by
  have h (rest : List (Half × String)) (front : String) :
      (rest.foldl (fun s (_, behind) => s ++ "\ufffd" ++ behind) front).toList =
        (points ⟨front, rest⟩).map CodePoint.toChar := by
    induction rest generalizing front with
    | nil => simp [points, CodePoint.toChar, Function.comp_def]
    | cons part rest ih =>
      simp only [List.foldl_cons, ih]
      simp [points, CodePoint.toChar, Function.comp_def]
  exact h t.rest t.front

theorem chars_append (s t : Text) : (s ++ t).chars = s.chars ++ t.chars := by
  rw [chars_eq, chars_eq s, chars_eq t, points_append, List.map_append]

theorem chars_ofLines (lines : List Text) :
    (ofLines lines).chars = lines.flatMap fun line => line.chars ++ ['\n'] := by
  have h (t : Text) : (lines.foldl (fun (t line : Text) => t ++ line ++ "\n") t).chars =
      t.chars ++ lines.flatMap fun line => line.chars ++ ['\n'] := by
    induction lines generalizing t with
    | nil => simp
    | cons line lines ih =>
      have hend : ("\n" : Text).chars = ['\n'] := rfl
      rw [List.foldl_cons, ih, chars_append, chars_append, hend, List.flatMap_cons,
        List.append_assoc, List.append_assoc, List.append_assoc]
  exact h ""

end Text
end AddOnLoan
