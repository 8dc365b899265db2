import AddOnLoan.Engine
import AddOnLoan.Json.Printer
import AddOnLoan.Text.Case
import AddOnLoan.Text.Integer

namespace AddOnLoan

structure Settings where
  defaultCurrency : Text := "USD"
  engine : Engine := {}
  /-- The most repayments that are served, in the form in which it was set. -/
  maxRepayments : Json := .int 1200
  /-- Whether a fault that no request is to blame for is handed on to the caller of the service
  and not answered. -/
  handsOnFaults : Bool := false
  /-- The most bytes of a body that are read, in the form in which it was set; null if any number
  is. -/
  largestBody : Json := .null
  /-- Whether a body that is too large is a fault, and not answered for what it is. -/
  sizeIsFault : Bool := false
  /-- How many arrays and objects of a body may lie around one another, which depends on the machine
  that the service runs on. -/
  deepestBody : Nat := 980

namespace Settings

abbrev Environment := List (Text × Text)

/-- A name and its text as they are read back from an environment, which holds bytes of any kind:
those of the name up to an equals sign, those of the text up to a zero. -/
def Environment.entry (name : Text) (value : Json) : Except Refusal (Text × Text) := do
  name.checkWritable Half.isByte
  let .text text := value | throw .unusableSetting
  text.checkWritable Half.isByte
  if name.holds '\x00' || text.holds '\x00' then throw (.input .nulInSetting)
  if name.holds '=' then throw (.input .signInSettingName)
  if name.isEmpty then throw .unnamedSetting
  return (name.readBack, text.readBack)

def Environment.make? (entries : List (Text × Json)) : Except Refusal Environment :=
  entries.mapM fun (name, value) => Environment.entry name value

def setting? (environment : Environment) (name : String) : Option Text :=
  (environment.find? fun entry => entry.1 == (name : Text)).map fun entry => entry.2

def wholeNumber (environment : Environment) (name : String) (otherwise : Int) :
    Except InputError Int :=
  match setting? environment name with
  | none => .ok otherwise
  | some text =>
    (readInteger text.chars).mapError fun
      | .malformed => .wholeNumberSetting text
      | .tooLong digits => .longNumberSetting digits

/-- The engine of a number of digits. A number with a point is compared with one, but counts no
digits; what is no number at all cannot even be compared. -/
def engineOf (precision : Json) (rounding : Option Rounding) : Except Refusal Engine :=
  match precision.isBelow? 1, precision.wholeNumber? with
  | none, _ => .error .unusableSetting
  | some true, _ =>
    .error (.input (if precision.isWritable then .ratePrecision precision.display
      else .longNumeral))
  | some false, some digits => Engine.make? digits rounding
  | some false, none => .ok ⟨none, rounding, none, nofun⟩

/-- The words for no, in small letters; nothing at all is one of them. -/
def wordsForNo : List Text := ["", "0", "false", "no"]

/-- Whether the environment asks to look for mistakes. Any text does but a word for no. -/
def looksForMistakes (environment : Environment) : Bool :=
  match setting? environment "FLASK_DEBUG" with
  | none => false
  | some text => !wordsForNo.contains text.lower

def isOn (overrides : List (Text × Json)) (name : String) (otherwise : Bool) : Bool :=
  ((Json.field? overrides name).map (!·.isBlankValue)).getD otherwise

/-- Faults are handed on where this is set, and else in tests and while looking for mistakes. -/
def faultsAreHandedOn (environment : Environment) (overrides : List (Text × Json)) : Bool :=
  match Json.field? overrides "PROPAGATE_EXCEPTIONS" with
  | none | some .null =>
    isOn overrides "TESTING" false || isOn overrides "DEBUG" (looksForMistakes environment)
  | some value => !value.isBlankValue

/-- The settings. All of the environment is read before anything is overridden. -/
def make? (entries : List (Text × Json)) (overrides : List (Text × Json)) :
    Except Refusal Settings := do
  let environment ← Environment.make? entries
  let currency := (setting? environment "FLAT_LOAN_DEFAULT_CURRENCY").getD "USD"
  let precision ← wholeNumber environment "FLAT_LOAN_RATE_PRECISION" 8
  let most ← wholeNumber environment "FLAT_LOAN_MAX_REPAYMENTS" 1200
  return {
    defaultCurrency := ((Json.field? overrides "DEFAULT_CURRENCY").map (·.display)).getD currency
    engine := ← engineOf ((Json.field? overrides "RATE_PRECISION").getD (.int precision))
      (some .halfEven)
    maxRepayments := (Json.field? overrides "MAX_REPAYMENTS").getD (.int most)
    handsOnFaults := faultsAreHandedOn environment overrides
    largestBody := (Json.field? overrides "MAX_CONTENT_LENGTH").getD .null
    sizeIsFault := isOn overrides "TRAP_HTTP_EXCEPTIONS" false }

end Settings
end AddOnLoan
