import Agenda.Calendar.Month
import Agenda.Recurrence.Chain
import Agenda.Store
import Agenda.Main
import Agenda.Proofs.Error
import Agenda.Proofs.Ascending
import Agenda.Proofs.Arithmetic
import Agenda.Proofs.Text.Fields
import Agenda.Proofs.Text.Numeral
import Agenda.Proofs.Text.Blank
import Agenda.Proofs.Text.Bytes
import Agenda.Proofs.Text.LowerCase
import Agenda.Proofs.Calendar.DayNumber
import Agenda.Proofs.Calendar.Month
import Agenda.Proofs.Calendar.MonthEnd
import Agenda.Proofs.Calendar.Anniversary
import Agenda.Proofs.Calendar.YearShift
import Agenda.Proofs.Calendar.DateText
import Agenda.Proofs.Calendar.StoredForm
import Agenda.Proofs.Rule.Grammar
import Agenda.Proofs.Rule.Checked
import Agenda.Proofs.Rule.Fault
import Agenda.Proofs.Rule.Conversion
import Agenda.Proofs.Recurrence.Interval
import Agenda.Proofs.Recurrence.Weekly
import Agenda.Proofs.Recurrence.Monthly
import Agenda.Proofs.Recurrence.MonthSearch
import Agenda.Proofs.Recurrence.NextDate
import Agenda.Proofs.Recurrence.FirstMatch
import Agenda.Proofs.Recurrence.Satisfiable
import Agenda.Proofs.Recurrence.FirstWeekday
import Agenda.Proofs.Recurrence.FirstAnniversary
import Agenda.Proofs.Recurrence.FirstStep
import Agenda.Proofs.Recurrence.Rounds
import Agenda.Proofs.Recurrence.Arithmetic
import Agenda.Proofs.Recurrence.MonthlyRun
import Agenda.Proofs.Recurrence.Preview
import Agenda.Proofs.Rule.Written
import Agenda.Proofs.Rule.Canonical
import Agenda.Proofs.Recurrence.Chain
import Agenda.Proofs.Task.Complete
import Agenda.Proofs.Task.Accepted
import Agenda.Proofs.Task.Settled
import Agenda.Proofs.Task.CatchUp
import Agenda.Proofs.Task.Completable
import Agenda.Proofs.Task.NextAnchor
import Agenda.Proofs.Task.Forward
import Agenda.Proofs.Store
import Agenda.Proofs.Json.Text
import Agenda.Proofs.Json.RoundTrip
import Agenda.Proofs.Json.Printable
import Agenda.Proofs.Task.Record
import Agenda.Proofs.Search.ShownDate
import Agenda.Proofs.Search.Select
import Agenda.Proofs.Search.Selection
import Agenda.Proofs.Search.Chronological
import Agenda.Proofs.Search.LiteralText
import Agenda.Proofs.Toml.NumberLine
import Agenda.Proofs.CommandLine.Arguments
import Agenda.Proofs.CommandLine.Directory
import Agenda.Proofs.CommandLine.Settings
import Agenda.Proofs.CommandLine.Run
import Agenda.Proofs.CommandLine.PrintedTask
import Agenda.Proofs.CommandLine.Preview
import Agenda.Proofs.CommandLine.FoundTasks
import Agenda.Proofs.CommandLine.Output
