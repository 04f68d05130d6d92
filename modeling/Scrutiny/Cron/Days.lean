import Scrutiny.Cron.Year
import Scrutiny.Pattern.CharTest

/-!
The day fields of cron expressions as far as they go beyond the common ones. A day of the month
may be the last, one counted from the last, or the weekday nearest to a day. Days of the week
are numbers from one, which is Sunday, or names, in ranges and with steps, the last one of a
month or the one of a week of the month. Letters match without regard to case.
-/

set_option autoImplicit false

namespace Scrutiny.Cron

open Text

def isLetter (letter c : Char) : Bool :=
  let f := Pattern.Fold.full
  (f.family (f.lower letter.toNat)).contains (f.lower c.toNat)

def isWord : List Char → List Char → Bool
  | [], [] => true
  | l :: ls, c :: cs => isLetter l c && isWord ls cs
  | _, _ => false

def shortNumber? (t : List Char) : Option Nat :=
  if (t.length = 1 ∨ t.length = 2) ∧ t.all isDigit = true then some (positional t) else none

/-- What a field for the day of the month says beyond the common forms. -/
inductive MonthDay where
  | last
  | beforeLast (days : Nat)
  | lastWeekday
  | nearestWeekday (day : Nat)
  deriving DecidableEq

def nearest? (t : List Char) : Option MonthDay :=
  match t.getLast? with
  | some c => if isLetter 'W' c then (shortNumber? t.dropLast).map .nearestWeekday else none
  | none => none

def monthDay? (t : List Char) : Option MonthDay :=
  if isWord ['L'] t then some .last
  else if isWord ['L', 'W'] t then some .lastWeekday
  else
    match t with
    | l :: '-' :: n => if isLetter 'L' l then (shortNumber? n).map .beforeLast else none
    | _ => nearest? t

def MonthDay.isPossible : MonthDay → Bool
  | .last => true
  | .beforeLast n => 1 ≤ n && n ≤ 30
  | .lastWeekday => true
  | .nearestWeekday n => 1 ≤ n && n ≤ 31

def weekdayNames : List String := ["SUN", "MON", "TUE", "WED", "THU", "FRI", "SAT"]

def isWeekday (t : List Char) : Bool :=
  match t with
  | [c] => '1' ≤ c && c ≤ '7'
  | _ => weekdayNames.any fun n => isWord n.toList t

/-- A step of digits that do not start with a zero. -/
def isWeekdayStep (t : List Char) : Bool :=
  match t with
  | c :: r => '1' ≤ c && c ≤ '9' && r.all isDigit
  | [] => false

def isLastWeekday (t : List Char) : Bool :=
  match t.getLast? with
  | some c => isLetter 'L' c && isWeekday t.dropLast
  | none => false

def isNumberedWeekday (t : List Char) : Bool :=
  match cutOnce '#' t with
  | (day, some [k]) => isWeekday day && '1' ≤ k && k ≤ '5'
  | _ => false

def isWeekdaySpan (t : List Char) : Bool :=
  match cutOnce '-' t with
  | (a, none) => isWeekday a
  | (a, some b) => isWeekday a && isWeekday b

def isSteppedWeekday (t : List Char) : Bool :=
  match cutOnce '/' t with
  | (body, none) => body = ['*'] || isWeekdaySpan body
  | (body, some step) => (body = ['*'] || isWeekdaySpan body) && isWeekdayStep step

def isWeekdayItem (t : List Char) : Bool :=
  isSteppedWeekday t || isWord ['L'] t || isLastWeekday t || isNumberedWeekday t

def takesWeekdays (t : List Char) : Bool := t = ['?'] || (cutAt ',' t).all isWeekdayItem

end Scrutiny.Cron
