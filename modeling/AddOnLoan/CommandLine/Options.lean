import AddOnLoan.CommandLine.Error
import AddOnLoan.Text.Case
import AddOnLoan.Text.Integer
import AddOnLoan.Text.Similarity

namespace AddOnLoan

inductive ValueKind where
  | text
  | wholeNumber
  | choice (words : List String) (overlooksCase : Bool)
  /-- The option has no value; giving it is all. -/
  | flag
  deriving DecidableEq, Repr

structure OptionSpec where
  /-- The long name with its hyphens, which also identifies the option. -/
  long : String
  short : Option Char := none
  kind : ValueKind
  required : Bool := false
  deriving DecidableEq, Repr

inductive OptionValue where
  | text (t : Text)
  | wholeNumber (n : Int)
  deriving DecidableEq, Repr

/-- The values of options, each under the long name of its option. -/
abbrev OptionValues := List (String × OptionValue)

namespace OptionSpec

def shortName (c : Char) : String := String.ofList ['-', c]

def names (spec : OptionSpec) : List String := spec.long :: (spec.short.map shortName).toList

def takesValue (spec : OptionSpec) : Bool := spec.kind != .flag

def read (spec : OptionSpec) (text : Text) : Except CommandError OptionValue :=
  match spec.kind with
  | .text | .flag => .ok (.text text)
  | .wholeNumber =>
    match readInteger? text.chars with
    | some n => .ok (.wholeNumber n)
    | none => .error (.badValue spec.names (.notAnInteger text))
  | .choice words overlooksCase =>
    let form (t : Text) := if overlooksCase then asciiFolded t.chars else t.chars
    match words.find? fun (word : String) => form word == form text with
    | some word => .ok (.text word)
    | none => .error (.badValue spec.names (.notAChoice text words))

end OptionSpec

/-- The options given, in order, each with the text of its value, and the plain arguments. -/
structure Arguments where
  options : List (OptionSpec × Text) := []
  plain : List Text := []

namespace Arguments

def withPlain (a : Arguments) (arguments : List Text) : Arguments :=
  { a with plain := arguments ++ a.plain }

def splitValue (argument : List CodePoint) : Text × Option Text :=
  match argument.dropWhile (· != .char '=') with
  | [] => (.ofPoints argument, none)
  | _ :: value => (.ofPoints (argument.takeWhile (· != .char '=')), some (.ofPoints value))

/-- What a word of short options leaves open. -/
inductive ShortWord where
  /-- Flags only. -/
  | done (flags : List OptionSpec)
  /-- An option whose value is the rest of the word, or the next argument if there is no rest. -/
  | value (flags : List OptionSpec) (spec : OptionSpec) (letter : Char) (rest : List CodePoint)

def readShortWord (specs : List OptionSpec) : List CodePoint → Except CommandError ShortWord
  | [] => .ok (.done [])
  | .half h :: _ => .error (.noSuchOption (.ofPoints [.char '-', .half h]) [])
  | .char c :: rest =>
    match specs.find? (·.short == some c) with
    | none => .error (.noSuchOption (OptionSpec.shortName c) [])
    | some spec =>
      if spec.takesValue then .ok (.value [] spec c rest)
      else do
        match ← readShortWord specs rest with
        | .done flags => return .done (spec :: flags)
        | .value flags last letter rest => return .value (spec :: flags) last letter rest

/-- One argument that begins with a hyphen and has more to it. -/
inductive OptionWord where
  /-- Options that are complete. -/
  | complete (options : List (OptionSpec × Text))
  /-- Options of which the last takes the next argument for its value. -/
  | pending (options : List (OptionSpec × Text)) (spec : OptionSpec) (name : String)

def withoutValues (flags : List OptionSpec) : List (OptionSpec × Text) :=
  flags.map fun flag => (flag, "")

/-- The long names that a wrong one may have been meant for; every command has one for its help. -/
def longNames (specs : List OptionSpec) : List String := "--help" :: specs.map (·.long)

def readOptionWord (specs : List OptionSpec) (argument : List CodePoint) :
    Except CommandError OptionWord :=
  let (name, value?) := splitValue argument
  match specs.find? fun spec => (spec.long : Text) == name with
  | some spec =>
    match spec.takesValue, value? with
    | true, some value => .ok (.complete [(spec, value)])
    | true, none => .ok (.pending [] spec spec.long)
    | false, none => .ok (.complete [(spec, "")])
    | false, some _ => .error (.argumentNotTaken spec.long)
  | none =>
    if name.startsWith "--" then .error (.noSuchOption name (closeWords name (longNames specs)))
    else do
      match ← readShortWord specs (argument.drop 1) with
      | .done flags => return .complete (withoutValues flags)
      | .value flags spec letter [] =>
        return .pending (withoutValues flags) spec (OptionSpec.shortName letter)
      | .value flags spec _ rest =>
        return .complete (withoutValues flags ++ [(spec, .ofPoints rest)])

def isOptionWord (argument : Text) : Bool :=
  argument.startsWith "-" && argument != ("-" : Text)

/-- Cuts a list of arguments. Two hyphens alone end the options; so does the first plain argument,
unless options may stand between plain ones. -/
def read (specs : List OptionSpec) (mixed : Bool) : List Text → Except CommandError Arguments
  | [] => .ok {}
  | argument :: rest =>
    if argument = "--" then .ok (({} : Arguments).withPlain rest)
    else if isOptionWord argument then do
      match ← readOptionWord specs argument.points with
      | .complete options =>
        let a ← read specs mixed rest
        return { a with options := options ++ a.options }
      | .pending options spec name =>
        match rest with
        | [] => .error (.argumentRequired name)
        | value :: rest =>
          let a ← read specs mixed rest
          return { a with options := options ++ (spec, value) :: a.options }
    else if mixed then (·.withPlain [argument]) <$> read specs mixed rest
    else .ok (({} : Arguments).withPlain (argument :: rest))

/-- The text given for an option; of several the last. -/
def text? (a : Arguments) (spec : OptionSpec) : Option Text :=
  (a.options.reverse.find? (·.1.long == spec.long)).map (·.2)

/-- The options in the order in which their values are read: those given by their first place,
then the others. -/
def readingOrder (a : Arguments) (specs : List OptionSpec) : List OptionSpec :=
  let given := a.options.map (·.1.long)
  specs.filter (given.contains ·.long) |>.mergeSort
      (fun s t => given.idxOf s.long ≤ given.idxOf t.long)
    |> (· ++ specs.filter (!given.contains ·.long))

/-- Reads the values of all options. The first that is missing or no good is reported. -/
def values (a : Arguments) (specs : List OptionSpec) :
    Except CommandError (OptionValues) := do
  let found ← (a.readingOrder specs).mapM fun spec =>
    match a.text? spec with
    | some text => (fun value => some (spec.long, value)) <$> spec.read text
    | none => if spec.required then .error (.missingOption spec.names) else .ok none
  return found.filterMap id

end Arguments

namespace OptionValues

def get? (values : OptionValues) (long : String) : Option OptionValue :=
  (values.find? fun entry => entry.1 == long).map fun entry => entry.2

def text? (values : OptionValues) (long : String) : Option Text :=
  match values.get? long with
  | some (.text t) => some t
  | _ => none

def wholeNumber? (values : OptionValues) (long : String) : Option Int :=
  match values.get? long with
  | some (.wholeNumber n) => some n
  | _ => none

end OptionValues
end AddOnLoan
