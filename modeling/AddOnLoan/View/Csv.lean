import AddOnLoan.Calendar.Text
import AddOnLoan.Schedule

namespace AddOnLoan
namespace Csv

def needsQuotes (field : List Char) : Bool :=
  field.any fun c => c == ',' || c == '"' || c == '\r' || c == '\n'

/-- A quote inside a quoted field is written twice. -/
def field (cs : List Char) : List Char :=
  if needsQuotes cs then '"' :: cs.flatMap (fun c => if c = '"' then ['"', '"'] else [c]) ++ ['"']
  else cs

def line (fields : List String) : String :=
  ",".intercalate (fields.map fun f => String.ofList (field f.toList)) ++ "\r\n"

end Csv

namespace Schedule

def csvHeader : List String := [
  "Period",
  "From_Date",
  "Due_Date",
  "Principal_Disbursed",
  "Principal_Due",
  "Interest_Due",
  "Total_Due",
  "Principal_Outstanding"]

def csvFields (p : Installment) : List String := [
  natText p.number,
  (p.start.map (·.iso)).getD "",
  p.due.iso,
  p.disbursed.text,
  p.principalDue.text,
  p.interestDue.text,
  p.totalDue.text,
  p.outstanding.text]

def csvLines (s : Schedule) : List String := (csvHeader :: s.rows.map csvFields).map Csv.line

def csv (s : Schedule) : String := String.join s.csvLines

end Schedule
end AddOnLoan
