import Scrutiny.Recurrence.Flaw
import Scrutiny.Text.LetterCase

/-!
A recurrence rule proper: the pairs that say how often, from when to when and at which times. The
values are read one by one, of several with one name the last one counts, and only then are they
looked at together.
-/

set_option autoImplicit false

namespace Scrutiny.Recurrence

open Text Calendar

inductive Frequency where
  | yearly
  | monthly
  | weekly
  | daily
  | hourly
  | minutely
  | secondly
  deriving DecidableEq

def frequencies : List (String × Frequency) := [
  ("YEARLY", .yearly), ("MONTHLY", .monthly), ("WEEKLY", .weekly), ("DAILY", .daily),
  ("HOURLY", .hourly), ("MINUTELY", .minutely), ("SECONDLY", .secondly)]

def Frequency.isWithinDay : Frequency → Bool
  | .hourly => true
  | .minutely => true
  | .secondly => true
  | _ => false

def weekdays : List String := ["MO", "TU", "WE", "TH", "FR", "SA", "SU"]

/-- What a rule says, as far as it matters to whether it can be followed. -/
structure Draft where
  frequency : Option Frequency := none
  interval : Int := 1
  /-- The last moment. -/
  last : Option Moment := none
  positions : List Int := []
  hours : Option (List Int) := none
  minutes : Option (List Int) := none
  seconds : Option (List Int) := none

/-- The moment that gives a date the parts it leaves open. -/
def openParts : Moment := ⟨⟨2024, 1, 1, rfl⟩, 0, 0, 0, 0, none⟩

def integers? (value : List Char) : Option (List Int) := (cutAt ',' value).mapM readInteger?

def isWeekday (t : List Char) : Bool := weekdays.contains (String.ofList t)

def isSignOrDigit (c : Char) : Bool := c = '+' || c = '-' || c.isDigit

def isLedWeekday (t : List Char) : Bool :=
  let n := min (t.takeWhile isSignOrDigit).length (t.length - 1)
  isWeekday (t.drop n) && (n = 0 || match readInteger? (t.take n) with
    | some k => k ≠ 0
    | none => false)

def isTailedWeekday (t : List Char) : Bool :=
  match cutAt '(' t with
  | day :: n :: _ => isWeekday day && match readInteger? n.dropLast with
    | some k => k ≠ 0
    | none => false
  | _ => false

def isWeekdayItem (t : List Char) : Bool :=
  if t.contains '(' then isTailedWeekday t else !t.isEmpty && isLedWeekday t

def Draft.put? (d : Draft) (name : String) (value : List Char) : Except Flaw (Option Draft) :=
  match name with
  | "FREQ" =>
    .ok ((frequencies.lookup (String.ofList value)).map fun f => { d with frequency := some f })
  | "INTERVAL" => .ok ((readInteger? value).map fun n => { d with interval := n })
  | "COUNT" => .ok ((readInteger? value).map fun _ => d)
  | "UNTIL" =>
    match Loose.read openParts value with
    | .ok m => .ok (some { d with last := some m })
    | .error .tooLarge => .error (.noDate value .tooLarge)
    | .error _ => .ok none
  | "WKST" => .ok (if isWeekday value then some d else none)
  | "BYSETPOS" => .ok ((integers? value).map fun ns => { d with positions := ns })
  | "BYHOUR" => .ok ((integers? value).map fun ns => { d with hours := some ns })
  | "BYMINUTE" => .ok ((integers? value).map fun ns => { d with minutes := some ns })
  | "BYSECOND" => .ok ((integers? value).map fun ns => { d with seconds := some ns })
  | "BYDAY" => .ok (if (cutAt ',' value).all isWeekdayItem then some d else none)
  | "BYWEEKDAY" => .ok (if (cutAt ',' value).all isWeekdayItem then some d else none)
  | other =>
    if ["BYMONTH", "BYMONTHDAY", "BYYEARDAY", "BYEASTER", "BYWEEKNO"].contains other then
      .ok ((integers? value).map fun _ => d)
    else .error (.unknownName other.toList)

def Draft.putPair (d : Draft) (pair : List Char) : Except Flaw Draft :=
  match cutOnce '=' pair with
  | (_, none) => .error .noPair
  | (name, some value) =>
    if value.contains '=' then .error .manyMarks
    else do
      match ← d.put? (String.ofList (upper name)) (upper value) with
      | some d => return d
      | none => throw (.invalid (upper name) (upper value))

/-- Whether some number of a list can come up when one starts at a number and goes on by steps
around a circle. -/
def comesUp (interval : Int) (circle : Nat) (start : Nat) (ns : List Int) : Bool :=
  let step := Int.gcd interval circle
  ns.any fun n => step = 1 || (n - start) % step == 0

/-- Whether the times of a unit can come up; without a start they can. -/
def Draft.meets (d : Draft) (circle : Nat) (start : Option Nat) (ns : Option (List Int)) : Bool :=
  match start, ns with
  | some s, some ns => comesUp d.interval circle s ns
  | _, _ => true

def Draft.hasTimes (d : Draft) (f : Frequency) (start : Option Moment) : Bool :=
  match f with
  | .hourly => d.meets 24 (start.map Moment.hour) d.hours
  | .minutely => d.meets 60 (start.map Moment.minute) d.minutes
  | .secondly => d.meets 60 (start.map Moment.second) d.seconds
  | _ => true

def isBelow (limit : Int) (n : Int) : Bool := 0 ≤ n && n < limit

/-- The first of the times of a day that is none, the hours running slowest. -/
def timeFlaw? (hours minutes seconds : List Int) : Option Flaw :=
  let leastBelow (limit : Int) (ns : List Int) : Bool := (ns.min?.map (isBelow limit)).getD true
  if !leastBelow 24 hours then some .badHour
  else if !leastBelow 60 minutes then some .badMinute
  else if !seconds.all (isBelow 60) then some .badSecond
  else if !minutes.all (isBelow 60) then some .badMinute
  else if !hours.all (isBelow 24) then some .badHour
  else none

def isPosition (n : Int) : Bool := n ≠ 0 && n.natAbs ≤ 366

def Draft.settle (d : Draft) (start : Option Moment) : Except Flaw Unit :=
  match d.frequency with
  | none => .error .noFrequency
  | some f =>
    if (match start, d.last with
        | some s, some l => s.isAware != l.isAware
        | _, _ => false) then .error .unlikeZones
    else if !d.positions.all isPosition then .error .badPosition
    else if !d.hasTimes f start then .error .noTimes
    else if f.isWithinDay then .ok ()
    else
      match timeFlaw? (d.hours.getD []) (d.minutes.getD []) (d.seconds.getD []) with
      | some flaw => .error flaw
      | none => .ok ()

def pairsOf (line : List Char) : Except Flaw (List (List Char)) :=
  match cutAt ':' line with
  | [rule] => .ok (cutAt ';' rule)
  | [m, rule] => if m = "RRULE".toList then .ok (cutAt ';' rule) else .error .wrongMark
  | _ => .error .manyMarks

def readRule (start : Option Moment) (line : List Char) : Except Flaw Unit := do
  let d ← (← pairsOf line).foldlM Draft.putPair {}
  d.settle start

end Scrutiny.Recurrence
