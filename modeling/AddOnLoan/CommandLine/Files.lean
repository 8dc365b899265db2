import AddOnLoan.CommandLine.Error

namespace AddOnLoan

def splitSlashes : List CodePoint → List (List CodePoint)
  | [] => [[]]
  | point :: rest =>
    if point = .char '/' then [] :: splitSlashes rest
    else match splitSlashes rest with
      | run :: runs => (point :: run) :: runs
      | [] => [[point]]

/-- The parts of a path between slashes; empty parts and single points do not count. -/
def pathParts (path : Text) : List Text :=
  ((splitSlashes path.points).map Text.ofPoints).filter fun part =>
    part != ("" : Text) && part != ("." : Text)

/-- The path without superfluous slashes and points. A path may begin with one slash or with
two; more are as good as one. -/
def plainPath (path : Text) : Text :=
  let root : Text :=
    if path.startsWith "//" && !path.startsWith "///" then "//"
    else if path.startsWith "/" then "/"
    else ""
  let plain := root ++ Text.intercalate "/" (pathParts path)
  if plain.isEmpty then "." else plain

/-- The last part of a path from its last point on, unless the point begins or ends it. -/
def pathEnding (path : Text) : List Char :=
  let name := ((pathParts path).getLast?.map (·.chars)).getD []
  let ending := (name.reverse.takeWhile (· != '.')).reverse
  if ending.isEmpty ∨ ending.length + 1 ≥ name.length then [] else '.' :: ending

/-- A directory that is sure to be there: that of the run, the one for temporary files around it, or
the root. -/
inductive Directory where
  | working
  | temporary
  | root
  deriving DecidableEq, Repr

namespace Directory

def enter? (directory : Directory) (name : Text) : Option Directory :=
  if name = ".." then some (if directory = working then temporary else root)
  else if name = "tmp" ∧ directory = root then some temporary
  else none

/-- The directory that a file with these path parts lies in. The parts are looked at in order. -/
def ofFile (start : Directory) : List Text → Except FileError Directory
  | [] => .ok start
  | name :: rest =>
    if name.byteSize > 255 then .error .nameTooLong
    else if rest.isEmpty then .ok start
    else match start.enter? name with
      | some inner => inner.ofFile rest
      | none => .error .directoryNotFound

def ofPath (path : Text) : Except FileError Directory :=
  match path.unwritable? Half.isByte with
  | some run => .error (.unwritablePath run)
  | none =>
    if path.holds '\x00' then .error .nulInPath
    else if path.byteSize ≥ 4096 then .error .nameTooLong
    else (if path.startsWith "/" then root else working).ofFile (pathParts path)

end Directory

end AddOnLoan
