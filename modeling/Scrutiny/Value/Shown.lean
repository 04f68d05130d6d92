import Scrutiny.Fault
import Scrutiny.Text.Quoted

/-!
Values as text. Inside a collection, and where a message quotes a value, a value is shown as it
would be written in a program: texts are quoted and decimals, dates and moments name their kind.
A value on its own is written plainly. An integer beyond the digit limit cannot be written.
-/

set_option autoImplicit false

namespace Scrutiny.Value

open Text Calendar

def integer (n : Int) : Except Fault (List Char) :=
  match integerText? n with
  | some t => .ok t
  | none => .error .wrongValue

def commaSeparated (ts : List (List Char)) : List Char := glue [',', ' '] ts

def enclosed (left right : String) (inner : List Char) : List Char :=
  left.toList ++ inner ++ right.toList

def numbers (ns : List Nat) : List Char := commaSeparated (ns.map naturalText)

def dateShown (d : Date) : List Char :=
  enclosed "datetime.date(" ")" (numbers [d.year, d.month, d.day])

/-- A clock's offset: a negative one counts from the day before. -/
def offsetShown (o : Int) : List Char :=
  if o = 0 then "datetime.timezone.utc".toList
  else
    let seconds := naturalText (o % 86400).toNat
    let inner :=
      if o < 0 then "days=-1, seconds=".toList ++ seconds else "seconds=".toList ++ seconds
    enclosed "datetime.timezone(datetime.timedelta(" "))" inner

def momentShown (m : Moment) : List Char :=
  let clock :=
    if m.microsecond ≠ 0 then [m.second, m.microsecond]
    else if m.second ≠ 0 then [m.second]
    else []
  let parts := numbers ([m.date.year, m.date.month, m.date.day, m.hour, m.minute] ++ clock)
  let zone := match m.offset with
    | some o => ", tzinfo=".toList ++ offsetShown o
    | none => []
  enclosed "datetime.datetime(" ")" (parts ++ zone)

mutual

def shown : Value → Except Fault (List Char)
  | .null => .ok "None".toList
  | .bool true => .ok "True".toList
  | .bool false => .ok "False".toList
  | .int n => integer n
  | .real x => .ok x.text
  | .decimal d => .ok (enclosed "Decimal('" "')" d.text)
  | .text s => .ok (quoted s.toList)
  | .bytes bs => .ok (quotedBytes bs)
  | .date d => .ok (dateShown d)
  | .moment m => .ok (momentShown m)
  | .list items => do return enclosed "[" "]" (commaSeparated (← shownAll items))
  | .tuple items => do
    match ← shownAll items with
    | [t] => return enclosed "(" ",)" t
    | ts => return enclosed "(" ")" (commaSeparated ts)
  | .dict entries => do
    return enclosed "\x7b" "\x7d" (commaSeparated (← shownEntries entries))
  | .set items => do
    match ← shownAll items with
    | [] => return "set()".toList
    | ts => return enclosed "\x7b" "\x7d" (commaSeparated ts)
  | .frozenset items => do
    match ← shownAll items with
    | [] => return "frozenset()".toList
    | ts => return enclosed "frozenset(\x7b" "\x7d)" (commaSeparated ts)

def shownAll : List Value → Except Fault (List (List Char))
  | [] => .ok []
  | v :: vs => do
    let t ← shown v
    return t :: (← shownAll vs)

def shownEntries : List (Value × Value) → Except Fault (List (List Char))
  | [] => .ok []
  | (k, v) :: es => do
    let a ← shown k
    let b ← shown v
    return (a ++ ':' :: ' ' :: b) :: (← shownEntries es)

end

def plain : Value → Except Fault (List Char)
  | .text s => .ok s.toList
  | .decimal d => .ok d.text
  | .date d => .ok d.iso
  | .moment m => .ok (m.iso ' ')
  | v => v.shown

/-- A value as codes and messages write it: null and the truth values in lower case. -/
def wording : Value → Except Fault (List Char)
  | .null => .ok "null".toList
  | .bool true => .ok "true".toList
  | .bool false => .ok "false".toList
  | v => v.plain

def shownText (v : Value) : Except Fault String := v.shown.map String.ofList

def plainText (v : Value) : Except Fault String := v.plain.map String.ofList

def wordingText (v : Value) : Except Fault String := v.wording.map String.ofList

end Scrutiny.Value
