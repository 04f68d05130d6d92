import Scrutiny.Text.LetterCase
import Scrutiny.Text.Pieces
import Scrutiny.Text.Integer

/-!
The common fields of cron expressions: seconds, minutes, hours, days of the month and months. A
field is a list of items, an item a star, a number or a range, the latter two with a step if one
is wanted. A range whose ends are equal means the whole field, and one that runs backwards goes
through the end of the field to its start. A field may also ask for a random value.
-/

set_option autoImplicit false

namespace Scrutiny.Cron

open Text

inductive Slot where
  | second
  | minute
  | hour
  | dayOfMonth
  | month
  deriving DecidableEq

namespace Slot

def low : Slot → Nat
  | .dayOfMonth => 1
  | .month => 1
  | _ => 0

def high : Slot → Nat
  | .second => 59
  | .minute => 59
  | .hour => 23
  | .dayOfMonth => 31
  | .month => 12

def holds (s : Slot) (n : Nat) : Bool := s.low ≤ n && n ≤ s.high

end Slot

def monthNames : List String :=
  ["jan", "feb", "mar", "apr", "may", "jun", "jul", "aug", "sep", "oct", "nov", "dec"]

def month? (t : List Char) : Option Nat :=
  let n := monthNames.idxOf (String.ofList t)
  if n < monthNames.length then some (n + 1) else none

def natural? (t : List Char) : Option Nat :=
  if !t.isEmpty && t.all Char.isDigit then some (positional t) else none

/-- A number of a field. -/
def Slot.number? (s : Slot) (t : List Char) : Option Nat :=
  match natural? t with
  | some n => some n
  | none => if s = .month then month? t else none

def isLast (s : Slot) (t : List Char) : Bool := s = .dayOfMonth && t = ['l']

/-- The end of a range; the last day of a month may be named. -/
def Slot.highEnd? (s : Slot) (t : List Char) : Option Nat :=
  if isLast s t then some s.high else s.number? t

def isStep (t : List Char) : Bool :=
  t.length ≤ digitLimit &&
    match natural? t with
    | some n => 0 < n
    | none => false

def isStepOrNone : Option (List Char) → Bool
  | some t => isStep t
  | none => true

/-- Whether a field takes a range: its ends may not be above the field, and the start of one
that runs forwards may not be below it. -/
def Slot.takesRange (s : Slot) (low high : List Char) (step : Option (List Char)) : Bool :=
  match s.number? low, s.highEnd? high with
  | some a, some b => max a b ≤ s.high && (b ≤ a || s.low ≤ a) && isStepOrNone step
  | _, _ => false

def Slot.takesNumber (s : Slot) (t : List Char) : Bool :=
  match s.number? t with
  | some n => s.holds n
  | none => false

def Slot.takesItem (s : Slot) (t : List Char) : Bool :=
  match cutOnce '/' t with
  | (body, step) =>
    match cutOnce '-' body with
    | (low, some high) => s.takesRange low high step
    | (low, none) =>
      if low = ['*'] then isStepOrNone step
      else
        match step with
        | some _ => s.takesRange low (naturalText s.high) step
        | none => isLast s low || s.takesNumber low

def pair? : List Char → Option ((List Char × List Char) × List Char)
  | '(' :: t =>
    match cutOnce ')' t with
    | (inner, some rest) =>
      match cutOnce '-' inner with
      | (a, some b) => some ((a, b), rest)
      | (_, none) => none
    | (_, none) => none
  | _ => none

def Slot.takesDraw (s : Slot) (a b : List Char) : Bool :=
  match natural? a, natural? b with
  | some m, some n => m < n && s.holds m && s.holds n
  | _, _ => false

/-- Whether random values with a step can be asked for: the first must be within the field. -/
def Slot.takesDrawStep (s : Slot) (t : List Char) : Bool :=
  isStep t &&
    match natural? t with
    | some n => s.low + n ≤ s.high + 1
    | none => false

def Slot.takesRandom (s : Slot) (t : List Char) : Bool :=
  match t with
  | [] => true
  | '/' :: step => s.takesDrawStep step
  | _ =>
    match pair? t with
    | some ((a, b), []) => s.takesDraw a b
    | some ((a, b), '/' :: step) => s.takesDraw a b && isStep step
    | _ => false

/-- Whether a field takes a text, which is read without regard to case. -/
def Slot.takes (s : Slot) (t : List Char) : Bool :=
  match lower t with
  | 'r' :: rest => s.takesRandom rest
  | t => (cutAt ',' t).all s.takesItem

/-- The fields of an expression up to the days of the week, which are any. -/
def takesFields : List (List Char) → Bool
  | [second, minute, hour, day, month, _] =>
    Slot.second.takes second && Slot.minute.takes minute && Slot.hour.takes hour &&
      Slot.dayOfMonth.takes day && Slot.month.takes month
  | _ => false

end Scrutiny.Cron
