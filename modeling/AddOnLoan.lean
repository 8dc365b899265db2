import AddOnLoan.Binary64
import AddOnLoan.Calendar.Date
import AddOnLoan.Calendar.Text
import AddOnLoan.CommandLine.Commands
import AddOnLoan.CommandLine.Effects
import AddOnLoan.CommandLine.Error
import AddOnLoan.CommandLine.Files
import AddOnLoan.CommandLine.Options
import AddOnLoan.CommandLine.Terms
import AddOnLoan.Decimal.Basic
import AddOnLoan.Decimal.Context
import AddOnLoan.Decimal.Reader
import AddOnLoan.Decimal.Rounding
import AddOnLoan.Decimal.Text
import AddOnLoan.DueDates
import AddOnLoan.Engine
import AddOnLoan.Entry
import AddOnLoan.Frequency
import AddOnLoan.Json.Basic
import AddOnLoan.Json.Encoding
import AddOnLoan.Json.Printer
import AddOnLoan.Json.Reader
import AddOnLoan.Main
import AddOnLoan.Money.Basic
import AddOnLoan.Money.Catalogue
import AddOnLoan.Money.Source
import AddOnLoan.Proofs.Calendar.DayNumber
import AddOnLoan.Proofs.Calendar.Months
import AddOnLoan.Proofs.Decimal.Digits
import AddOnLoan.Proofs.Decimal.Results
import AddOnLoan.Proofs.DueDates
import AddOnLoan.Proofs.Engine.Faults
import AddOnLoan.Proofs.Engine.Progress
import AddOnLoan.Proofs.Engine.Refusals
import AddOnLoan.Proofs.Engine.Run
import AddOnLoan.Proofs.Engine.Stages
import AddOnLoan.Proofs.Money.Shares
import AddOnLoan.Proofs.Money.Sums
import AddOnLoan.Proofs.Outcome
import AddOnLoan.Proofs.Schedule.Balance
import AddOnLoan.Proofs.Schedule.Reconciliation
import AddOnLoan.Proofs.Web.Answers
import AddOnLoan.Proofs.Web.Payload
import AddOnLoan.Proofs.Web.Settings
import AddOnLoan.Refusal
import AddOnLoan.Schedule
import AddOnLoan.Text.Basic
import AddOnLoan.Text.Blank
import AddOnLoan.Text.Bytes
import AddOnLoan.Text.Case
import AddOnLoan.Text.CaseTable
import AddOnLoan.Text.ControlSequence
import AddOnLoan.Text.Digit
import AddOnLoan.Text.Integer
import AddOnLoan.Text.Printable
import AddOnLoan.Text.Similarity
import AddOnLoan.Trace
import AddOnLoan.View.Csv
import AddOnLoan.View.Rich
import AddOnLoan.View.Slim
import AddOnLoan.View.Table
import AddOnLoan.Web.Payload
import AddOnLoan.Web.Service
import AddOnLoan.Web.Settings
import AddOnLoan.Proofs.Decimal.Rounding
import AddOnLoan.Proofs.Decimal.Rounded
import AddOnLoan.Proofs.Money.Quotients
import AddOnLoan.Proofs.Engine.Split
import AddOnLoan.Proofs.Engine.Interest
import AddOnLoan.Proofs.Schedule.Acceptance
import AddOnLoan.Proofs.Schedule.ClosedForm
import AddOnLoan.Proofs.Web.Reading
import AddOnLoan.Proofs.Web.Shapes
import AddOnLoan.Proofs.CommandLine.Terms
import AddOnLoan.Proofs.Decimal.Reading
import AddOnLoan.Proofs.Entry
import AddOnLoan.Proofs.Fronts
import AddOnLoan.Proofs.Schedule.Layout
import AddOnLoan.Proofs.Decimal.Values
import AddOnLoan.Proofs.Engine.Comparison
import AddOnLoan.Proofs.Schedule.Cost
import AddOnLoan.Proofs.Decimal.Notation
import AddOnLoan.Proofs.View.Cells
import AddOnLoan.Proofs.View.Amounts
import AddOnLoan.Proofs.CommandLine.Refusals
import AddOnLoan.Proofs.DueDates.ClosedForm
import AddOnLoan.Proofs.Decimal.Significant
import AddOnLoan.Proofs.Engine.TermRate
import AddOnLoan.Proofs.Decimal.RoundTrip
import AddOnLoan.Proofs.Calendar.Text
import AddOnLoan.Proofs.View.ReadBack
import AddOnLoan.Proofs.Decimal.Order
import AddOnLoan.Proofs.Money.Products
import AddOnLoan.Proofs.Money.Summation
import AddOnLoan.Proofs.Money.Making
import AddOnLoan.Proofs.Schedule.Dearer
import AddOnLoan.Proofs.Schedule.Interest
import AddOnLoan.Proofs.Calendar.Grammar
import AddOnLoan.Proofs.DueDates.Units
import AddOnLoan.Proofs.Text.Points
import AddOnLoan.Proofs.CommandLine.FileNames
import AddOnLoan.Proofs.CommandLine.Aftermath
import AddOnLoan.Proofs.Entry.Scaled
import AddOnLoan.Proofs.CommandLine.Amounts
import AddOnLoan.Proofs.Engine.Records
import AddOnLoan.Proofs.Money.Programs
import AddOnLoan.Proofs.Calendar.MonthLaws
import AddOnLoan.Proofs.Calendar.DaySteps
