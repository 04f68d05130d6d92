import Scrutiny.Text.LetterCase
import Scrutiny.Text.Pieces
import Scrutiny.Decimal.Multiple
import Scrutiny.Value.Reading
import Scrutiny.Value.Order
import Scrutiny.Code
import Scrutiny.Checkers
import Scrutiny.Pattern.Notation
import Scrutiny.Rule
import Scrutiny.Settings
import Scrutiny.Report.Json
import Scrutiny.Report.Reading
import Scrutiny.Cron.Check
import Scrutiny.Recurrence.Check
import Scrutiny.Session.Step
import Scrutiny.Record.Equal
import Scrutiny.Proofs.Session.Turn
import Scrutiny.Proofs.Session.Growth
import Scrutiny.Proofs.Session.History
import Scrutiny.Proofs.Session.Atomic
import Scrutiny.Proofs.Session.Sharing
import Scrutiny.Proofs.Session.Kinship
import Scrutiny.Proofs.Session.Ending
import Scrutiny.Proofs.Session.Nesting
import Scrutiny.Proofs.Session.Parties
import Scrutiny.Proofs.Session.Isolation
import Scrutiny.Proofs.Rule.Absence
import Scrutiny.Proofs.Rule.Label
import Scrutiny.Proofs.Rule.Overlooking
import Scrutiny.Proofs.Rule.Place
import Scrutiny.Proofs.Settings.Booleans
import Scrutiny.Proofs.Recurrence.Spacing
import Scrutiny.Proofs.Value.Writing
import Scrutiny.Proofs.Decimal.Range
import Scrutiny.Proofs.Rule.Failing
import Scrutiny.Proofs.Report.Telling
import Scrutiny.Proofs.Rule.Amounts
import Scrutiny.Proofs.Rule.Families
import Scrutiny.Proofs.Value.Integers
import Scrutiny.Proofs.Rule.Multiples
import Scrutiny.Proofs.Rule.Exclusion
import Scrutiny.Proofs.Rule.Matching
import Scrutiny.Proofs.Rule.Complements
import Scrutiny.Proofs.Calendar.Iso
import Scrutiny.Proofs.Rule.Days
import Scrutiny.Proofs.Settings.Precedence
import Scrutiny.Proofs.Settings.Tokens
import Scrutiny.Proofs.Rule.Schedules
import Scrutiny.Proofs.Cron.Fields
import Scrutiny.Proofs.Cron.Years
import Scrutiny.Proofs.Cron.Weekdays
import Scrutiny.Proofs.Session.Notes
