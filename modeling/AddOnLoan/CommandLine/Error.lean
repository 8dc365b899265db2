import AddOnLoan.Refusal

namespace AddOnLoan

def quotedList (words : List String) : String :=
  ", ".intercalate (words.map fun (word : String) => quoted word)

inductive ValueProblem where
  | notAnInteger (text : Text)
  | notAChoice (text : Text) (words : List String)
  | amount (text : Text)
  /-- The terms made of the values are refused. -/
  | refused (cause : Refusal)
  | scheduleFormat
  | summaryFormat
  deriving DecidableEq

namespace ValueProblem

def message : ValueProblem → Text
  | notAnInteger text => quoted text ++ " is not a valid integer."
  | notAChoice text words =>
    quoted text ++ " is not one of " ++ quotedList words ++ "."
  | amount text => "Invalid amount: " ++ text
  | refused cause => cause.message
  | scheduleFormat => "Unsupported output format; use .json or .csv"
  | summaryFormat => "Summary export must use .json extension"

end ValueProblem

inductive CommandError where
  /-- A value is no good; the names of its option are listed if it was found while reading it. -/
  | badValue (names : List String) (problem : ValueProblem)
  | missingOption (names : List String)
  /-- An option that there is not, with the options that are close to it. -/
  | noSuchOption (option : Text) (close : List String)
  | argumentRequired (option : String)
  | argumentNotTaken (option : String)
  /-- A command that there is not, with the commands that are close to it. -/
  | noSuchCommand (name : Text) (close : List String)
  | missingCommand
  | unexpectedArguments (arguments : List Text)
  /-- There is no schedule for the terms. -/
  | refused (cause : Refusal)
  /-- A refusal that no command expects. -/
  | unexpected (cause : Refusal)
  deriving DecidableEq

namespace CommandError

def optionNames (names : List String) : String :=
  " / ".intercalate (names.map fun name => "'" ++ name ++ "'")

/-- What may have been meant, behind a blank; nothing if there is no guess. -/
def guess : List String → String
  | [] => ""
  | [word] => " Did you mean " ++ quoted word ++ "?"
  | words => " (Did you mean one of: " ++ quotedList words ++ "?)"

def message : CommandError → Text
  | badValue [] problem => "Invalid value: " ++ problem.message
  | badValue names problem =>
    "Invalid value for " ++ optionNames names ++ ": " ++ problem.message
  | missingOption names => "Missing option " ++ optionNames names ++ "."
  | noSuchOption option close => "No such option " ++ quoted option ++ "." ++ guess close
  | argumentRequired option => "Option " ++ quoted option ++ " requires an argument."
  | argumentNotTaken option => "Option " ++ quoted option ++ " does not take a value."
  | noSuchCommand name close => "No such command " ++ quoted name ++ "." ++ guess close
  | missingCommand => "Missing command."
  | unexpectedArguments arguments =>
    (if arguments.length = 1 then "Got unexpected extra argument ("
      else "Got unexpected extra arguments (") ++ Text.intercalate " " arguments ++ ")"
  | refused cause | unexpected cause => cause.message

def exitCode : CommandError → Nat
  | refused _ | unexpected _ => 1
  | _ => 2

end CommandError

inductive FileError where
  | directoryNotFound
  | nameTooLong
  | nulInPath
  /-- The path cannot be written in bytes. -/
  | unwritablePath (run : UnwritableRun)
  deriving DecidableEq, Repr

def FileError.message : FileError → String
  | nulInPath => "embedded null byte"
  | unwritablePath run => run.message
  | directoryNotFound | nameTooLong => ""

/-- What goes wrong outside of a command while it does its work. -/
inductive Fault where
  | file (e : FileError)
  /-- No more can be written to where it goes. -/
  | full
  /-- Standard output has nothing for a code point. -/
  | unprintable (point : CodePoint)
  deriving DecidableEq, Repr

end AddOnLoan
