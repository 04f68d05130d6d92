import Scrutiny.Rule.Amount
import Scrutiny.Rule.Choice
import Scrutiny.Rule.Day
import Scrutiny.Rule.Linked
import Scrutiny.Rule.Outright
import Scrutiny.Rule.Required
import Scrutiny.Rule.Schedule
import Scrutiny.Rule.Whole
import Scrutiny.Rule.Wording

/-!
The rules of all families. A rule is judged on a focus; only rules on schedules need more than
that, and what they need is given to all.
-/

set_option autoImplicit false

namespace Scrutiny

inductive Rule where
  | required (r : Required)
  | linked (r : Linked)
  | whole (r : Whole)
  | amount (r : Amount)
  | choice (r : Choice)
  | wording (r : Wording)
  | day (r : Day)
  | schedule (r : Schedule)
  | outright (r : Outright)

namespace Rule

def judge (checkers : Checkers) (f : Focus) : Rule → Verdict
  | .required r => r.judge f
  | .linked r => r.judge f
  | .whole r => r.judge f
  | .amount r => r.judge f
  | .choice r => r.judge f
  | .wording r => r.judge f
  | .day r => r.judge f
  | .schedule r => r.judge checkers f
  | .outright r => r.judge f

def question (f : Focus) : Rule → Except Fault (Option (ScheduleForm × String))
  | .schedule r => do return (← r.question f).map (r.form, ·)
  | _ => .ok none

end Rule
end Scrutiny
