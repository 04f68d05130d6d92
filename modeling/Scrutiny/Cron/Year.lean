import Scrutiny.Text.Pieces
import Scrutiny.Text.Digit

/-!
The year field of cron expressions: a list of stars, years of four digits and ranges of them,
with steps if wanted. Years have to lie between the first and the last that are allowed, and a
range may not run backwards.
-/

set_option autoImplicit false

namespace Scrutiny.Cron

open Text

def isDigits (t : List Char) : Bool := !t.isEmpty && t.all isDigit

def year? (t : List Char) : Option Int :=
  if t.length = 4 ∧ t.all isDigit = true then some (positional t) else none

structure Years where
  first : Int
  last : Int
  deriving DecidableEq

def Years.holds (ys : Years) (y : Int) : Bool := ys.first ≤ y && y ≤ ys.last

def Years.takesSpan (ys : Years) (t : List Char) : Bool :=
  match cutOnce '-' t with
  | (a, none) =>
    match year? a with
    | some y => ys.holds y
    | none => false
  | (a, some b) =>
    match year? a, year? b with
    | some y, some z => ys.holds y && ys.holds z && y ≤ z
    | _, _ => false

def Years.takesItem (ys : Years) (t : List Char) : Bool :=
  match cutOnce '/' t with
  | (body, step) =>
    (match step with
      | some s => isDigits s
      | none => true) && (body = ['*'] || ys.takesSpan body)

/-- Whether the year field is taken. -/
def Years.takes (ys : Years) (t : List Char) : Bool := (cutAt ',' t).all ys.takesItem

end Scrutiny.Cron
