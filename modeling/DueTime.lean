import DueTime.Calendar.Date
import DueTime.Calendar.HourMinute
import DueTime.Calendar.Iso
import DueTime.Calendar.TimePoint
import DueTime.Calendar.Timestamp
import DueTime.Calendar.Weekday
import DueTime.Command.Answer
import DueTime.Command.Argument
import DueTime.Command.Elapsed
import DueTime.Command.Help
import DueTime.Command.MachineLine
import DueTime.Command.Options
import DueTime.Command.Palette
import DueTime.Command.Refusal
import DueTime.Command.Report
import DueTime.Command.Run
import DueTime.Command.Settings
import DueTime.Json.Basic
import DueTime.Json.Error
import DueTime.Json.Number
import DueTime.Json.Reader
import DueTime.Main
import DueTime.Reminder.Draft
import DueTime.Reminder.Extraction
import DueTime.Reminder.FailureCode
import DueTime.Resolution.Aim
import DueTime.Resolution.Basic
import DueTime.Resolution.Diagnostics
import DueTime.Resolution.Error
import DueTime.Resolution.Explanation
import DueTime.Result
import DueTime.Text.Blank
import DueTime.Text.CaseTable
import DueTime.Text.Digits
import DueTime.Text.Expect
import DueTime.Text.Lowercase
import DueTime.TimePattern.Basic
import DueTime.TimePattern.Record
import DueTime.Token.Classify
import DueTime.Token.Feature
import DueTime.Token.Grammar
import DueTime.Token.Normal
import DueTime.Token.Reader
import DueTime.Zone.Africa
import DueTime.Zone.America
import DueTime.Zone.Antarctica
import DueTime.Zone.Asia
import DueTime.Zone.Basic
import DueTime.Zone.Change
import DueTime.Zone.Database
import DueTime.Zone.Europe
import DueTime.Zone.Localize
import DueTime.Zone.Named
import DueTime.Zone.Pacific
import DueTime.ZonedTime
import DueTime.Proofs.Calendar.TimePoint
import DueTime.Proofs.Calendar.Margin
import DueTime.Proofs.Zone.FirstShown
import DueTime.Proofs.Zone.Regular
import DueTime.Proofs.Zone.Known
import DueTime.Proofs.Zone.Localize
import DueTime.Proofs.Zone.Missing
import DueTime.Proofs.Zone.Moved
import DueTime.Proofs.Calendar.Weekday
import DueTime.Proofs.Resolution.Resolver
import DueTime.Proofs.Resolution.TargetDay
import DueTime.Proofs.Resolution.WallClock
import DueTime.Proofs.Resolution.Past
import DueTime.Proofs.Resolution.Refusal
import DueTime.Proofs.Resolution.WeekdayLaw
import DueTime.Proofs.Token.Reader
import DueTime.Proofs.Token.Skeleton
import DueTime.Proofs.Token.Classify
import DueTime.Proofs.Token.Expression
import DueTime.Proofs.Token.Search
import DueTime.Proofs.Resolution.Order
import DueTime.Proofs.Resolution.Repeat
import DueTime.Proofs.Resolution.DaysAhead
import DueTime.Proofs.Reminder.Payload
import DueTime.Proofs.Text.Blank
import DueTime.Proofs.Resolution.Verdict
import DueTime.Proofs.Except
import DueTime.Proofs.Reminder.Draft
import DueTime.Proofs.Token.Trace
import DueTime.Proofs.Resolution.Explanation
import DueTime.Proofs.Calendar.Iso
import DueTime.Proofs.Resolution.Due
import DueTime.Proofs.Zone.Steady
import DueTime.Proofs.Resolution.Rollover
import DueTime.Proofs.Json.Written
import DueTime.Proofs.Text.Words
import DueTime.Proofs.Text.Lowercase
import DueTime.Proofs.Token.Front
import DueTime.Proofs.Command.Run
import DueTime.Proofs.Command.Clock
import DueTime.Proofs.Command.MachineLine
import DueTime.Proofs.Command.Given
import DueTime.Proofs.Command.Routes
import DueTime.Proofs.Command.Scan
import DueTime.Proofs.Command.Faults
import DueTime.Proofs.Command.ExitCode
import DueTime.Proofs.Resolution.Elapsed
import DueTime.Proofs.Resolution.Canonical
import DueTime.Proofs.Token.Normal
import DueTime.Proofs.Command.LastOccurrence
import DueTime.Proofs.Command.Spelling
import DueTime.Proofs.Command.Unpainted
import DueTime.Proofs.Command.Colors
