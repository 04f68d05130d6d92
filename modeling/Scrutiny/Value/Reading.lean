import Scrutiny.Decimal.Scale
import Scrutiny.Value.Shown
import Scrutiny.Value.Equal

/-!
Reading a value as what a rule needs. Integers are read from integers and signed digits within
a width, decimals from finite numbers and their text, dates from dates, moments and date text,
arrays and collections from the kinds of that name. A value that cannot be read is refused; truth
values are never numbers.
-/

set_option autoImplicit false

namespace Scrutiny

open Text Calendar

inductive Width where
  | short
  | long
  deriving DecidableEq

def Width.target : Width → Target
  | .short => .int
  | .long => .long

def Width.lowest : Width → Int
  | .short => -2147483648
  | .long => -9223372036854775808

def Width.highest : Width → Int
  | .short => 2147483647
  | .long => 9223372036854775807

def Width.holds (w : Width) (n : Int) : Bool := w.lowest ≤ n && n ≤ w.highest

namespace Value

/-- Null, or a value whose text has nothing but blanks. -/
def isBlank (v : Value) : Except Fault Bool := do
  if v.isNull then return true else return isAllBlank (← v.wording)

def unreadable {α : Type} (field : Option String) (v : Value) (t : Target) : Except Fault α := do
  .error (.refused (.unreadable field v (← v.shownText) t))

def within (field : Option String) (w : Width) (v : Value) (n : Int) : Except Fault Int :=
  if w.holds n then .ok n else unreadable field v w.target

def asInteger (field : Option String) (w : Width) (v : Value) : Except Fault Int :=
  match v with
  | .bool _ => unreadable field v w.target
  | .int n => within field w v n
  | _ => do
    let t ← v.wording
    if isSignedDigits t then
      match signedValue? t with
      | some n => within field w v n
      | none => .error .wrongValue
    else unreadable field v w.target

def finite (field : Option String) (v : Value) (d : Decimal) : Except Fault Decimal :=
  if d.isFinite then .ok d else unreadable field v .decimal

def asDecimal (field : Option String) (v : Value) : Except Fault Decimal :=
  match v with
  | .bool _ => unreadable field v .decimal
  | .decimal d => finite field v d
  | .int n => .ok (.ofInt n)
  | _ => do
    match Decimal.read? (← v.wording) with
    | some d => finite field v d
    | none => unreadable field v .decimal

def asDate (field : Option String) (v : Value) : Except Fault Date :=
  match v with
  | .moment m => .ok m.date
  | .date d => .ok d
  | .text s =>
    match Date.read? (trim s.toList) with
    | some d => .ok d
    | none => unreadable field v .date
  | _ => unreadable field v .date

def asSequence (field : Option String) (v : Value) : Except Fault (List Value) :=
  match v.listItems? with
  | some items => .ok items
  | none => .error (.refused (.notArray field v.kind))

/-- The items of a collection; a dictionary counts by its keys. -/
def asCollection (field : Option String) (v : Value) : Except Fault (List Value) :=
  match v with
  | .list items => .ok items
  | .tuple items => .ok items
  | .set items => .ok items
  | .frozenset items => .ok items
  | .dict entries => .ok (entries.map Prod.fst)
  | _ => .error (.refused (.notCollection field v.kind))

end Value

def Decimal.scaleOf (d : Decimal) : Except Fault Nat :=
  match d.scale with
  | .ok n => .ok n
  | .error .signaling => .error .undefinedNumber
  | .error .aboveRange => .error .numberTooLarge
  | .error .noScale => .error .wrongValue

end Scrutiny
