import AddOnLoan.CommandLine.Effects
import AddOnLoan.CommandLine.Files
import AddOnLoan.CommandLine.Options
import AddOnLoan.CommandLine.Terms
import AddOnLoan.Engine
import AddOnLoan.Json.Printer
import AddOnLoan.Text.ControlSequence
import AddOnLoan.View.Csv
import AddOnLoan.View.Slim
import AddOnLoan.View.Table

namespace AddOnLoan

inductive Command where
  | schedule
  | summary
  deriving DecidableEq, Repr

namespace Command

def all : List Command := [.schedule, .summary]

def name : Command → String
  | schedule => "schedule"
  | summary => "summary"

def ofName? (name : Text) : Option Command :=
  all.find? fun command => (command.name : Text) == name

def unitChoice : ValueKind := .choice (PeriodUnit.all.map (·.name)) true

def termSpecs : List OptionSpec := [
  { long := "--principal", short := some 'p', kind := .text, required := true },
  { long := "--rate", short := some 'r', kind := .text, required := true },
  { long := "--repayments", short := some 'n', kind := .wholeNumber, required := true },
  { long := "--every", kind := .wholeNumber },
  { long := "--frequency", kind := unitChoice },
  { long := "--loan-term", kind := .wholeNumber },
  { long := "--loan-term-type", kind := unitChoice },
  { long := "--disbursement-date", short := some 'd', kind := .text, required := true },
  { long := "--first-repayment-date", kind := .text },
  { long := "--currency", kind := .text },
  { long := "--digits", kind := .wholeNumber }]

def shapeSpec : OptionSpec :=
  { long := "--shape", kind := .choice (Shape.all.map (·.name)) false }

def outputSpec : OptionSpec := { long := "--output", kind := .text }

def specs : Command → List OptionSpec
  | schedule => termSpecs ++ [shapeSpec, outputSpec]
  | summary => termSpecs ++ [outputSpec]

def termOptions (values : OptionValues) : TermOptions where
  principal := .text ((values.text? "--principal").getD "")
  rate := (values.text? "--rate").getD ""
  repayments := (values.wholeNumber? "--repayments").getD 0
  every := (values.wholeNumber? "--every").getD 1
  frequency := (values.text? "--frequency").getD "months"
  disbursementDate := (values.text? "--disbursement-date").getD ""
  loanTerm := values.wholeNumber? "--loan-term"
  loanTermType := values.text? "--loan-term-type"
  firstRepaymentDate := values.text? "--first-repayment-date"
  currency := .text ((values.text? "--currency").getD "USD")
  digits := values.wholeNumber? "--digits"

def asRefused (outcome : Except Refusal α) : Except CommandError α :=
  outcome.mapError fun r => if r.kind.isAboutLoan then .refused r else .unexpected r

/-- What is said of a file that was written. It need not go to a terminal, so control sequences in
its name are left out. -/
def confirmation (what : String) (path : Text) : Text :=
  (what ++ " exported to " ++ path).withoutControls ++ "\n"

def exported (what : String) (path : Text) (parts : List String) : List Effect :=
  .openFile path :: parts.map (.write path) ++ [.say (confirmation what path)]

/-- Each line is written before its line end. -/
def printed (lines : List Text) : List Effect :=
  lines.flatMap fun line => [.say line, .say "\n"]

/-- A schedule in the format that the path asks for. Only what is whole is written. -/
def exportSchedule (s : Schedule) (entry : CurrencyEntry) (shape path : Text) :
    Except CommandError (List Effect) :=
  let ending := lower (pathEnding path)
  if ending = ".json".toList then do
    let value ← (s.inShape entry shape).mapError CommandError.unexpected
    return exported "Schedule" (plainPath path) [value.indented]
  else if ending = ".csv".toList then .ok (exported "Schedule" (plainPath path) s.csvLines)
  else .error (.badValue [] .scheduleFormat)

def exportSummary (s : Schedule) (entry : CurrencyEntry) (path : Text) :
    Except CommandError (List Effect) :=
  if lower (pathEnding path) = ".json".toList then do
    let view ← (RichView.assemble s entry).mapError CommandError.unexpected
    return exported "Summary" (plainPath path) [view.summaryJson.indented]
  else .error (.badValue [] .summaryFormat)

def effects (command : Command) (values : OptionValues) (s : Schedule) (entry : CurrencyEntry) :
    Except CommandError (List Effect) :=
  match command, givenText (values.text? "--output") with
  | schedule, some path =>
    exportSchedule s entry ((values.text? "--shape").getD Shape.rich.name) path
  | summary, some path => exportSummary s entry path
  | schedule, none => .ok (printed (s.summaryLines entry.symbol ++ s.tableLines))
  | summary, none => .ok (printed (s.summaryLines entry.symbol))

end Command

def TermOptions.compute (o : TermOptions) : Except CommandError (Schedule × CurrencyEntry) := do
  let (terms, entry) ← o.terms
  return (← Command.asRefused (({} : Engine).generate terms).outcome, entry)

/-- What a run is asked for: a command with the values of its options, and its log if that is to be
shown. -/
structure Call where
  verbose : Bool
  command : Command
  values : OptionValues

def Call.run (faults : Faults) (call : Call) : Action Unit := do
  let (terms, entry) ← (Command.termOptions call.values).terms
  let traced := ({} : Engine).generate terms
  Action.log (if call.verbose then traced.events.map (·.line) else [])
  let s ← Command.asRefused traced.outcome
  Action.performAll faults (← call.command.effects call.values s entry)

abbrev Parser := List Text → Except CommandError Call

structure CommandResult where
  remains : Remains
  stop : Option Stop

namespace CommandResult

def of : Except Stop Unit × Remains → CommandResult
  | (.ok _, r) => ⟨r, none⟩
  | (.error stop, r) => ⟨r, some stop⟩

def exitCode (result : CommandResult) : Nat := (result.stop.map (·.exitCode)).getD 0

end CommandResult

namespace CommandLine

def verboseSpec : OptionSpec := { long := "--verbose", short := some 'v', kind := .flag }

/-- The command that a list of arguments names, with its own arguments. A name that begins with a
hyphen and is no command is looked at once more as an option. -/
def command (given : Arguments) : Except CommandError (Command × List Text) :=
  match given.plain with
  | [] => .error .missingCommand
  | name :: rest =>
    match Command.ofName? name with
    | some command => .ok (command, rest)
    | none => do
      if name.startsWith "-" then
        let _ ← Arguments.read [verboseSpec] false given.plain
      .error (.noSuchCommand name (closeWords name (Command.all.map (·.name))))

def read : Parser := fun arguments => do
  let given ← Arguments.read [verboseSpec] false arguments
  let (command, rest) ← command given
  let own ← Arguments.read command.specs true rest
  let values ← own.values command.specs
  unless own.plain.isEmpty do throw (.unexpectedArguments own.plain)
  return ⟨!given.options.isEmpty, command, values⟩

/-- In a directory that is empty, where standard output takes everything, only a file cannot be
opened. -/
def emptyDirectory : Faults := fun _ effect =>
  match effect with
  | .openFile path =>
    match Directory.ofPath path with
    | .ok _ => none
    | .error e => some (.file e, 0)
  | .write .. | .say _ => none

def run (parser : Parser) (faults : Faults) (arguments : List Text) : CommandResult :=
  .of ((do (← parser arguments).run faults : Action Unit) {})

end CommandLine
end AddOnLoan
