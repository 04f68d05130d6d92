import Scrutiny.Report.Basic

/-!
Values as JSON. Numbers that are no integers of their own kind are texts where JSON has no number
for them: decimals, dates and moments. Undefined and infinite doubles are null. Texts escape the
quote, the backslash and the control characters and nothing else.
-/

set_option autoImplicit false

namespace Scrutiny.Report

open Text Calendar

/-- Doubles have a point or an exponent without padding. -/
def numberLayout : Double.Layout :=
  ⟨-4, 16, 1, ['n', 'u', 'l', 'l'], ['n', 'u', 'l', 'l']⟩

def doubleText : Double → List Char
  | .finite n m q => numberLayout.text (.finite n m q)
  | _ => ['n', 'u', 'l', 'l']

def escaped (c : Char) : List Char :=
  if c = '"' then ['\\', '"']
  else if c = '\\' then ['\\', '\\']
  else if c.toNat = 8 then ['\\', 'b']
  else if c.toNat = 9 then ['\\', 't']
  else if c.toNat = 10 then ['\\', 'n']
  else if c.toNat = 12 then ['\\', 'f']
  else if c.toNat = 13 then ['\\', 'r']
  else if c.toNat < 32 then '\\' :: 'u' :: hexDigits 4 c.toNat
  else [c]

def quotedText (t : List Char) : List Char := '"' :: t.flatMap escaped ++ ['"']

def momentText (m : Moment) : List Char :=
  m.date.iso ++ 'T' :: m.timeText ++ match m.offset with
    | none => []
    | some 0 => ['Z']
    | some o => offsetText o

def byteText (bs : List UInt8) : Except Fault (List Char) :=
  match String.fromUTF8? ⟨bs.toArray⟩ with
  | some s => .ok s.toList
  | none => .error .unwritable

mutual

def keyText : Value → Except Fault (List Char)
  | .null => .ok "None".toList
  | .bool b => .ok (if b then "true" else "false").toList
  | .text s => .ok s.toList
  | .bytes bs => byteText bs
  | .moment m => .ok (momentText m)
  | .tuple items => do return glue [','] (← keyTexts items)
  | .int n => .ok (integerText n)
  | .real x => .ok x.text
  | .decimal d => .ok d.text
  | .date d => .ok d.iso
  | _ => .error .unwritable

def keyTexts : List Value → Except Fault (List (List Char))
  | [] => .ok []
  | v :: vs => do
    let t ← keyText v
    return t :: (← keyTexts vs)

end

mutual

def json : Value → Except Fault (List Char)
  | .null => .ok ['n', 'u', 'l', 'l']
  | .bool b => .ok (if b then "true" else "false").toList
  | .int n => .ok (integerText n)
  | .real x => .ok (doubleText x)
  | .decimal d => .ok (quotedText d.text)
  | .text s => .ok (quotedText s.toList)
  | .bytes bs => do return quotedText (← byteText bs)
  | .date d => .ok (quotedText d.iso)
  | .moment m => .ok (quotedText (momentText m))
  | .list items => array items
  | .tuple items => array items
  | .set items => array items
  | .frozenset items => array items
  | .dict entries => do
    return '\x7b' :: glue [','] (← jsonEntries entries) ++ ['\x7d']

def array (items : List Value) : Except Fault (List Char) := do
  return '[' :: glue [','] (← jsonAll items) ++ [']']

def jsonAll : List Value → Except Fault (List (List Char))
  | [] => .ok []
  | v :: vs => do
    let t ← json v
    return t :: (← jsonAll vs)

def jsonEntries : List (Value × Value) → Except Fault (List (List Char))
  | [] => .ok []
  | (k, v) :: es => do
    let a ← keyText k
    let b ← json v
    return (quotedText a ++ ':' :: b) :: (← jsonEntries es)

end

def jsonText (v : Value) : Except Fault String := v |> json |>.map String.ofList

end Scrutiny.Report
