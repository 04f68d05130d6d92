import Scrutiny.Rule.Schedule
import Scrutiny.Text.Quoted
import Scrutiny.Value.Shown

/-!
Notes that a session leaves for those who watch it: every violation that is recorded, every fresh
start and every merge, every session that ends with violations, and every schedule that a checker
has rejected.
-/

set_option autoImplicit false

namespace Scrutiny

inductive Note where
  | recorded (e : ErrorRecord)
  | restarted (resource : Option String)
  | merged (count : Nat) (source target : Option String)
  | failed (resource : Option String) (count : Nat)
  | uncut (text : String)
  | rejected (form : ScheduleForm) (text reason : String)

namespace Note

/-- Only a session's end is of interest to those who do not look for errors. -/
def isInformation : Note → Bool
  | .failed .. => true
  | _ => false

def isFromChecker : Note → Bool
  | .uncut _ => true
  | .rejected .. => true
  | _ => false

def formName : ScheduleForm → String
  | .recurrence => "recurrence rule "
  | .cron => "cron expression "

def quotedText (t : String) : String := String.ofList (Text.quoted t.toList)

/-- A value in a note; one that cannot be written is left out. -/
def valueText (v : Value) : String := (v.plainText.toOption).getD ""

def message : Note → String
  | .recorded e => "validation error " ++ valueText e.code ++ " on " ++ valueText e.field
  | .restarted resource => "reset validation context for resource " ++ fieldName resource
  | .merged count source target =>
    "merged " ++ toString count ++ " errors from resource " ++ fieldName source ++ " into " ++
      fieldName target
  | .failed resource count =>
    "validation of " ++ fieldName resource ++ " failed with " ++ toString count ++ " errors"
  | .uncut t => formName .recurrence ++ quotedText t ++ " cannot be tokenized"
  | .rejected form t reason => formName form ++ quotedText t ++ " rejected: " ++ reason

def ofCheck (form : ScheduleForm) (t : String) (c : Check) : List Note :=
  match c.outcome with
  | .valid => []
  | .parseError => [.uncut t]
  | .invalid => [.rejected form t (c.reason.getD "")]

end Note
end Scrutiny
