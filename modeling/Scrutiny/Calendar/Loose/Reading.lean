import Scrutiny.Calendar.Loose.Parts
import Scrutiny.Power

/-!
Reading loosely written dates, such as `20240131T0930Z`, `31-JAN-2024` or `1/31/2024`. The tokens
are taken one after the other; what a number means depends on its length, on its neighbours and
on what is known already. What cannot be understood makes the whole text no date.
-/

set_option autoImplicit false

namespace Scrutiny.Calendar.Loose

open Text

def lowered (t : Token) : String := String.ofList (t.map Char.toLower)

def isJump (t : Token) : Bool :=
  [".", ",", ";", "-", "/", "'", "at", "on", "and", "ad", "m", "t", "of", "st", "nd", "rd",
    "th"].contains (lowered t)

def groupOf? (groups : List (List String)) (t : Token) : Option Nat :=
  let n := groups.findIdx fun g => g.contains (lowered t)
  if n < groups.length then some n else none

def isWeekday (t : Token) : Bool :=
  (groupOf? [["mon", "monday", "tue", "tuesday", "wed", "wednesday", "thu", "thursday", "fri",
    "friday", "sat", "saturday", "sun", "sunday"]] t).isSome

def month? (t : Token) : Option Nat :=
  (groupOf? [["jan", "january"], ["feb", "february"], ["mar", "march"], ["apr", "april"],
    ["may"], ["jun", "june"], ["jul", "july"], ["aug", "august"], ["sep", "sept", "september"],
    ["oct", "october"], ["nov", "november"], ["dec", "december"]] t).map (· + 1)

def unit? (t : Token) : Option Nat :=
  groupOf? [["h", "hour", "hours"], ["m", "minute", "minutes"], ["s", "second", "seconds"]] t

def afternoon? (t : Token) : Option Bool := (groupOf? [["am", "a"], ["pm", "p"]] t).map (· == 1)

def isUniversal (t : Token) : Bool := ["utc", "gmt", "z"].contains (lowered t)

def natural? (t : Token) : Option Nat :=
  if !t.isEmpty && t.all isDigit then some (positional t) else none

structure Numeral where
  whole : Nat
  fraction : List Char

def Numeral.hasFraction (n : Numeral) : Bool := n.fraction.any fun c => digitValue c ≠ 0

def Numeral.sixtieths (n : Numeral) : Nat := 60 * positional n.fraction / tenTo n.fraction.length

def numeral? (t : Token) : Option Numeral :=
  match cutOnce '.' t with
  | (w, none) => (natural? w).map fun n => ⟨n, []⟩
  | (w, some f) => do
    let n ← natural? w
    let _ ← natural? f
    return ⟨n, f⟩

def isNoNumber (t : Token) : Bool := ["nan", "inf", "infinity"].contains (lowered t)

def seconds? (t : Token) : Option Nat := (numeral? t).map Numeral.whole

def halfDay (hour : Nat) (afternoon : Bool) : Nat :=
  if hour < 12 ∧ afternoon = true then hour + 12
  else if hour = 12 ∧ afternoon = false then 0
  else hour

namespace Parts

def withNumbers? (p : Parts) (n : Option Numbers) : Option Parts :=
  n.map fun n => { p with numbers := n }

def addDigits? (p : Parts) (t : Token) : Option Parts := p.withNumbers? (p.numbers.addDigits? t)

def addMonth? (p : Parts) (m : Nat) : Option Parts := p.withNumbers? (p.numbers.addMonth? m)

def addMonthOrDigits? (p : Parts) (t : Token) : Option Parts :=
  match month? t with
  | some m => p.addMonth? m
  | none => p.addDigits? t

def addValue? (p : Parts) (n : Numeral) : Option Parts :=
  p.withNumbers? (p.numbers.addValue? n.whole n.hasFraction)

def setMinutes (p : Parts) (n : Numeral) : Parts :=
  { p with minute := some n.whole, second := if n.hasFraction then some n.sixtieths else none }

def setUnit? (p : Parts) (n : Numeral) : Nat → Option Parts
  | 0 =>
    some { p with
      hour := some n.whole
      minute := if n.hasFraction then some n.sixtieths else p.minute }
  | 1 => some (p.setMinutes n)
  | 2 => some { p with second := some n.whole }
  | _ => some p

def setClock? (p : Parts) (t : Token) : Option Parts := do
  let hour ← natural? (t.take 2)
  let minute ← natural? ((t.drop 2).take 2)
  let second ← seconds? (t.drop 4)
  return { p with hour := some hour, minute := some minute, second := some second }

def setFull? (p : Parts) (t : Token) : Option Parts := do
  let p ← p.withNumbers? (p.numbers.addYear? (← natural? (t.take 4)))
  let p ← p.addDigits? ((t.drop 4).take 2)
  let p ← p.addDigits? ((t.drop 6).take 2)
  if t.length = 8 then return p
  else
    let hour ← natural? ((t.drop 8).take 2)
    let minute ← natural? ((t.drop 10).take 2)
    let p := { p with hour := some hour, minute := some minute }
    if t.length = 12 then return p
    else return { p with second := some (← natural? (t.drop 12)) }

end Parts

def canBeDay (n : Numbers) (v : Numeral) : Bool :=
  let last := match n.monthAt, n.yearAt with
    | some m, some y => daysInMonth (n.values.getD y 0) (n.values.getD m 0)
    | some m, none => daysInMonth 2000 (n.values.getD m 0)
    | none, _ => 31
  1 ≤ v.whole && (v.whole < last || (v.whole = last && !v.hasFraction))

def isSign (ts : List String) (t : Option Token) : Bool :=
  match t with
  | some t => ts.contains (String.ofList t)
  | none => false

/-- A time of day with colons, from its hour on, and how many tokens it takes. -/
def clock? (p : Parts) (hour : Nat) (minutes : Token) (rest : List Token) :
    Option (Parts × Nat) := do
  let p := ({ p with hour := some hour } : Parts).setMinutes (← numeral? minutes)
  match rest with
  | [':'] :: s :: _ => return ({ p with second := some (← seconds? s) }, 4)
  | _ => return (p, 2)

def signed? (p : Parts) (sign : Token) (rest : List Token) : Option (Parts × Nat) := do
  match rest with
  | [] => return (p, 1)
  | second :: rest =>
    if isJump second then return (p, 1)
    else
      let p ← p.addMonthOrDigits? second
      if rest.head? = some sign then return (← p.addMonthOrDigits? (← rest[1]?), 4)
      else return (p, 2)

/-- What a number means, and how many tokens after it are taken with it. -/
def number? (p : Parts) (before : Option Token) (t : Token) (n : Numeral) (rest : List Token) :
    Option (Parts × Nat) :=
  let next := rest.head?
  let unit := next.bind unit?
  let length := t.length
  if p.numbers.size = 3 ∧ (length = 2 ∨ length = 4) ∧ p.hour = none ∧ isSign [":"] next = false ∧
      unit = none then do
    let hour ← natural? (t.take 2)
    if length = 2 then return ({ p with hour := some hour }, 0)
    else return ({ p with hour := some hour, minute := some (← natural? (t.drop 2)) }, 0)
  else if length = 6 ∨ (6 < length ∧ (t.take 7).getLast? = some '.') then
    if p.numbers.size = 0 ∧ t.contains '.' = false then do
      let p ← p.addDigits? (t.take 2)
      let p ← p.addDigits? ((t.drop 2).take 2)
      return (← p.addDigits? (t.drop 4), 0)
    else (p.setClock? t).map (·, 0)
  else if length = 8 ∨ length = 12 ∨ length = 14 then (p.setFull? t).map (·, 0)
  else
    match unit, before.bind unit?, rest with
    | some u, _, _ => (p.setUnit? n u).map (·, 1)
    | none, some u, _ => (p.setUnit? n (u + 1)).map (·, 0)
    | none, none, [':'] :: minutes :: rest => clock? p n.whole minutes rest
    | none, none, rest =>
      if isSign ["-", "/", "."] next then do
        let p ← p.addDigits? t
        signed? p (rest.headD []) rest.tail
      else if rest.isEmpty || next.any isJump then
        match rest[1]?.bind afternoon? with
        | some a => some ({ p with hour := some (halfDay n.whole a) }, 2)
        | none => (p.addValue? n).map (·, 1)
      else
        match next.bind afternoon? with
        | some a =>
          if n.whole < 24 then some ({ p with hour := some (halfDay n.whole a) }, 1)
          else if canBeDay p.numbers n then (p.addValue? n).map (·, 0)
          else none
        | none => if canBeDay p.numbers n then (p.addValue? n).map (·, 0) else none

def namedMonth? (p : Parts) (m : Nat) (rest : List Token) : Option (Parts × Nat) := do
  let p ← p.addMonth? m
  if isSign ["-", "/"] rest.head? then
    let p ← p.addDigits? (← rest[1]?)
    if rest[2]? = rest.head? then return (← p.addDigits? (← rest[3]?), 4)
    else return (p, 2)
  else return (p, 0)

def isZone (p : Parts) (t : Token) : Bool :=
  p.hour.isSome && p.zone.isNone && p.offset.isNone && t.length ≤ 5 &&
    (t.all Char.isUpper || ["UTC", "GMT", "Z", "z"].contains (String.ofList t))

def offset? (positive : Bool) (rest : List Token) : Option (Int × Nat) := do
  let t ← rest.head?
  let signed (hour minute : Nat) : Int :=
    let seconds : Int := (hour * 3600 + minute * 60 : Nat)
    if positive then seconds else -seconds
  if t.length = 4 then return (signed (← natural? (t.take 2)) (← natural? (t.drop 2)), 1)
  else if isSign [":"] rest[1]? then
    return (signed (← natural? t) (← natural? (← rest[2]?)), 3)
  else if t.length ≤ 2 then return (signed (← natural? t) 0, 1)
  else none

/-- A zone; an offset that follows counts the other way round. -/
def zone (p : Parts) (t : Token) (rest : List Token) : Parts × List Token :=
  match rest with
  | ['+'] :: r =>
    ({ p with zone := if isUniversal t then none else some t }, ['-'] :: r)
  | ['-'] :: r =>
    ({ p with zone := if isUniversal t then none else some t }, ['+'] :: r)
  | _ => ({ p with zone := some t }, rest)

def take? (p : Parts) (before : Option Token) (t : Token) (rest : List Token) :
    Option (Parts × List Token) :=
  let after (r : Parts × Nat) : Parts × List Token := (r.1, rest.drop r.2)
  match numeral? t, month? t, afternoon? t with
  | some n, _, _ => (number? p before t n rest).map after
  | none, some m, _ => (namedMonth? p m rest).map after
  | none, none, some a =>
    match p.hour with
    | some h =>
      if h ≤ 12 then some ({ p with hour := some (halfDay h a), afternoon := some a }, rest)
      else none
    | none => none
  | none, none, none =>
    if isNoNumber t then none
    else if isWeekday t then some ({ p with weekday := true }, rest)
    else if isZone p t then some (zone p t rest)
    else if p.hour.isSome && isSign ["+", "-"] (some t) then
      (offset? (t = ['+']) rest).map fun r => ({ p with offset := some r.1 }, rest.drop r.2)
    else if isJump t then some (p, rest)
    else none

/-- Takes all tokens; `before` is the one in front of them. -/
def parts? : Nat → Option Token → List Token → Parts → Option Parts
  | _, _, [], p => some p
  | 0, _, _ :: _, _ => none
  | fuel + 1, before, t :: rest, p =>
    match take? p before t rest with
    | some (p, left) => parts? fuel (((t :: rest).take (rest.length + 1 - left.length)).getLast?) left p
    | none => none

inductive Problem where
  | unknown
  | noDate
  | badMonthNumber (month : Nat)
  | badYear (year : Nat)
  | badMonth
  | badDay
  | badHour
  | badMinute
  | badSecond
  /-- A part that no machine integer holds. -/
  | tooLarge

def machineLimit : Nat := 2147483647

def wholeYear (full : Bool) (y : Nat) : Nat := if y < 100 ∧ full = false then 2000 + y else y

/-- What a missing day becomes: the day of the given moment, if the month is that long. -/
def missingDay (default : Moment) (year month : Nat) : Except Problem Nat :=
  if 1 ≤ month ∧ month ≤ 12 then .ok (min default.date.day (daysInMonth year month))
  else .error (.badMonthNumber month)

def checkedDate (y m d : Nat) : Except Problem Date :=
  if y < 1 ∨ lastYear < y then .error (.badYear y)
  else if m < 1 ∨ 12 < m then .error .badMonth
  else
    match Date.of? y m d with
    | some date => .ok date
    | none => .error .badDay

def moment (default : Moment) (p : Parts) (t : Numbers.Triple) : Except Problem Moment := do
  let year := (t.year.map (wholeYear p.numbers.fullYear)).getD default.date.year
  let month := t.month.getD default.date.month
  let day ← match t.day with
    | some d => pure d
    | none => missingDay default year month
  let hour := p.hour.getD default.hour
  let minute := p.minute.getD default.minute
  let second := p.second.getD default.second
  if [year, month, day, hour, minute, second].any fun n => machineLimit < n then
    throw .tooLarge
  let date ← checkedDate year month day
  if 24 ≤ hour then throw .badHour
  if 60 ≤ minute then throw .badMinute
  if 60 ≤ second then throw .badSecond
  let offset := match p.zone with
    | some z => if isUniversal z then some 0 else p.offset
    | none => p.offset
  return ⟨date, hour, minute, second, 0, offset⟩

/-- Reads a text without blanks; parts that are missing are those of the given moment. -/
def read (default : Moment) (t : List Char) : Except Problem Moment :=
  let ts := tokens t
  match parts? ts.length none ts {} with
  | none => .error .unknown
  | some p =>
    match p.numbers.resolve? with
    | none => .error .unknown
    | some triple => if p.isEmpty then .error .noDate else moment default p triple

def Problem.message? (t : List Char) : Problem → Option String
  | .unknown => some ("Unknown string format: " ++ String.ofList t)
  | .noDate => some ("String does not contain a date: " ++ String.ofList t)
  | .badMonthNumber m => about ("bad month number " ++ toString m ++ "; must be 1-12")
  | .badYear y => about ("year " ++ toString y ++ " is out of range")
  | .badMonth => about "month must be in 1..12"
  | .badDay => about "day is out of range for month"
  | .badHour => about "hour must be in 0..23"
  | .badMinute => about "minute must be in 0..59"
  | .badSecond => about "second must be in 0..59"
  | .tooLarge => none
where
  about (reason : String) : Option String := some (reason ++ ": " ++ String.ofList t)

end Scrutiny.Calendar.Loose
