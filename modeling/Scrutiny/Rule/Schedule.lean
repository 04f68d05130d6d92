import Scrutiny.Rule.Verdict
import Scrutiny.Value.Reading

/-!
Rules on schedules, which are left to a checker of their notation. A rule says which text it has
checked, if any, and turns the answer into a verdict: recurrence rules have codes that name
neither resource nor parameter, and those that cannot be cut into parts have a code of their own.
-/

set_option autoImplicit false

namespace Scrutiny

open Text

inductive Outcome where
  | valid
  | invalid
  /-- The text could not even be cut into parts. -/
  | parseError
  deriving DecidableEq

structure Check where
  outcome : Outcome
  reason : Option String
  deriving DecidableEq

namespace Check

def valid : Check := ⟨.valid, none⟩

def invalid (reason : String) : Check := ⟨.invalid, some reason⟩

def isValid (c : Check) : Bool := c.outcome = .valid

end Check

inductive ScheduleForm where
  | recurrence
  | cron
  deriving DecidableEq

/-- What checks the texts of each notation. -/
abbrev Checkers := ScheduleForm → String → Except Fault Check

inductive Schedule where
  | recurrence (rule : Option String)
  | cron

namespace Schedule

def form : Schedule → ScheduleForm
  | .recurrence _ => .recurrence
  | .cron => .cron

def question (f : Focus) : Schedule → Except Fault (Option String)
  | .recurrence none => .ok none
  | .recurrence (some t) => .ok (if isAllBlank t.toList then none else some t)
  | .cron => do
    if f.value.isNull then return none
    else return some (String.ofList (trim (← f.value.wording)))

def reportRecurrence (f : Focus) (t suffix message : String) : Verdict :=
  Verdict.violated (violation (fixedCode suffix) (.text message) f.field (.text t) [.text t])

def rejectedSuffix : String := "invalid.recurring.rule"

def uncutSuffix : String := "recurring.rule.parsing.error"

def verdict (f : Focus) (t : String) (c : Check) : Schedule → Verdict
  | .recurrence _ =>
    match c.outcome with
    | .valid => Verdict.pass
    | .parseError =>
      reportRecurrence f t uncutSuffix
        ("Error in parsing the Recurring Rule value: " ++ t ++ ".")
    | .invalid =>
      reportRecurrence f t rejectedSuffix
        ("The Recurring Rule value: " ++ t ++ " is not valid.")
  | .cron =>
    if c.isValid then Verdict.pass
    else f.report "invalid" "value is not a valid cron expression" f.value [f.value]

def judge (checkers : Checkers) (f : Focus) (s : Schedule) : Verdict := do
  match ← s.question f with
  | none => Verdict.pass
  | some t => s.verdict f t (← checkers s.form t)

end Schedule
end Scrutiny
