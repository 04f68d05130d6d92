import Scrutiny.Cron.Days
import Scrutiny.Cron.Field
import Scrutiny.Rule.Schedule

/-!
Checking cron expressions. An expression has six fields and may have a seventh for years. Exactly
one of the two day fields is a question mark. The day fields are checked for what they have
beyond the common forms and then stand as stars, so that what is left can be put to a check of
common fields, which is a parameter here.
-/

set_option autoImplicit false

namespace Scrutiny.Cron

open Text

def star : List Char := ['*']

/-- The field for the day of the month in a common form; none if it names no day. -/
def commonMonthDay? (t : List Char) : Option (List Char) :=
  if t = ['?'] then some star
  else
    match monthDay? t with
    | some d => if d.isPossible then some star else none
    | none => some t

def fieldCountReason (n : Nat) : String := "expected 6 or 7 fields, got " ++ toString n

def checkSix (takesCommon : List (List Char) → Bool)
    (second minute hour day month weekday : List Char) : Check :=
  if (day = ['?']) = (weekday = ['?']) then
    .invalid "exactly one of day-of-month and day-of-week must be '?'"
  else
    match commonMonthDay? day with
    | none => .invalid "invalid day-of-month field"
    | some common =>
      if !takesWeekdays weekday then .invalid "invalid day-of-week field"
      else if takesCommon [second, minute, hour, common, month, star] then .valid
      else .invalid "rejected by croniter"

def checkFields (takesCommon : List (List Char) → Bool) (ys : Years) :
    List (List Char) → Check
  | [s, m, h, d, mo, w] => checkSix takesCommon s m h d mo w
  | [s, m, h, d, mo, w, y] =>
    if ys.takes y then checkSix takesCommon s m h d mo w else .invalid "year field out of range"
  | fs => .invalid (fieldCountReason fs.length)

def checkWith (takesCommon : List (List Char) → Bool) (ys : Years) (t : List Char) : Check :=
  checkFields takesCommon ys (words t)

def check (ys : Years) (t : List Char) : Check := checkWith takesFields ys t

end Scrutiny.Cron
