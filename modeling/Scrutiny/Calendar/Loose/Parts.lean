import Scrutiny.Calendar.Loose.Token
import Scrutiny.Calendar.Moment

/-!
Parts of loosely written dates. Up to three numbers stand for year, month and day; which is which
is settled in the end, by names, by size and by order. Parts that are missing are taken from a
given moment.
-/

set_option autoImplicit false

namespace Scrutiny.Calendar.Loose

open Text

structure Numbers where
  values : List Nat := []
  fullYear : Bool := false
  yearAt : Option Nat := none
  monthAt : Option Nat := none

namespace Numbers

def size (n : Numbers) : Nat := n.values.length

def addPlain (n : Numbers) (v : Nat) : Numbers := { n with values := n.values ++ [v] }

def addYear? (n : Numbers) (v : Nat) : Option Numbers :=
  if n.yearAt.isSome then none
  else some { n.addPlain v with yearAt := some n.size, fullYear := true }

def addMonth? (n : Numbers) (v : Nat) : Option Numbers :=
  if n.monthAt.isSome then none else some { n.addPlain v with monthAt := some n.size }

/-- Adds a number; one above a hundred is a year. -/
def addValue? (n : Numbers) (v : Nat) (fraction : Bool) : Option Numbers :=
  if 100 < v ∨ (v = 100 ∧ fraction = true) then n.addYear? v else some (n.addPlain v)

/-- Adds digits; more than two of them are a year. -/
def addDigits? (n : Numbers) (t : Token) : Option Numbers :=
  if t.isEmpty || !t.all isDigit then none
  else if 2 < t.length then n.addYear? (positional t)
  else some (n.addPlain (positional t))

structure Triple where
  year : Option Nat
  month : Option Nat
  day : Option Nat

def triple (year month day : Nat) : Triple := ⟨some year, some month, some day⟩

def withMonth (place a b c : Nat) : Triple :=
  if place = 0 then (if 31 < b then triple b a c else triple c a b)
  else if place = 1 then (if 31 < a then triple a b c else triple c b a)
  else if 31 < b then triple b c a
  else triple a c b

def withBoth (yearAt monthAt a b c : Nat) : Triple :=
  let nth (i : Nat) : Nat := [a, b, c].getD i 0
  triple (nth yearAt) (nth monthAt) (nth (3 - yearAt - monthAt))

def three (n : Numbers) (a b c : Nat) : Triple :=
  match n.yearAt, n.monthAt with
  | some y, some m => withBoth y m a b c
  | _, some m => withMonth m a b c
  | y, none =>
    if 31 < a ∨ y = some 0 then triple a b c
    else if 12 < a then triple c b a
    else triple c a b

def two (n : Numbers) (a b : Nat) : Triple :=
  match n.yearAt, n.monthAt with
  | some y, some _ => if y = 0 then ⟨some a, some b, none⟩ else ⟨some b, some a, none⟩
  | _, some m =>
    let (month, other) := if m = 0 then (a, b) else (b, a)
    if 31 < other then ⟨some other, some month, none⟩ else ⟨none, some month, some other⟩
  | _, none =>
    if 31 < a then ⟨some a, some b, none⟩
    else if 31 < b then ⟨some b, some a, none⟩
    else ⟨none, some a, some b⟩

def one (n : Numbers) (a : Nat) : Triple :=
  match n.yearAt, n.monthAt with
  | some _, _ => ⟨some a, none, none⟩
  | _, some _ => ⟨none, some a, none⟩
  | _, none => if 31 < a then ⟨some a, none, none⟩ else ⟨none, none, some a⟩

/-- Settles which number is which; more than three are none. -/
def resolve? (n : Numbers) : Option Triple :=
  match n.values with
  | [] => some ⟨none, none, none⟩
  | [a] => some (n.one a)
  | [a, b] => some (n.two a b)
  | [a, b, c] => some (n.three a b c)
  | _ => none

end Numbers

structure Parts where
  numbers : Numbers := {}
  weekday : Bool := false
  hour : Option Nat := none
  minute : Option Nat := none
  second : Option Nat := none
  afternoon : Option Bool := none
  zone : Option Token := none
  offset : Option Int := none

def Parts.isEmpty (p : Parts) : Bool :=
  p.numbers.values.isEmpty && !p.weekday && p.hour.isNone && p.minute.isNone && p.second.isNone &&
    p.afternoon.isNone && p.zone.isNone && p.offset.isNone

end Scrutiny.Calendar.Loose
