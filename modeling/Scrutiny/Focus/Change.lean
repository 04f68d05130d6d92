import Scrutiny.Fault
import Scrutiny.Focus
import Scrutiny.Value.Shown

/-!
Changes of focus as a caller asks for them. All are possible but a place in a list whose part has
no name or whose index is no natural number.
-/

set_option autoImplicit false

namespace Scrutiny.Focus

open Text

inductive Change where
  | resource (name : Option String)
  | field (name : Option String)
  | position (part index : Value)
  | value (v : Value)
  | skipAbsent

def partName? : Value → Option String
  | .text s => if isAllBlank s.toList then none else some s
  | _ => none

def index? : Value → Option Int
  | .int n => if 0 ≤ n then some n else none
  | _ => none

def readPosition (f : Focus) (part index : Value) : Except Fault Position := do
  match partName? part with
  | none => throw (.refused (.blankPart f.field))
  | some p =>
    match index? index with
    | none => throw (.refused (.badIndex f.field (← index.shownText)))
    | some n => return ⟨p, n⟩

def change (f : Focus) : Change → Except Fault Focus
  | .resource name => .ok (f.withResource name)
  | .field name => .ok (f.withField name)
  | .position part index => do return f.atPosition (← f.readPosition part index)
  | .value v => .ok (f.withValue v)
  | .skipAbsent => .ok f.skippingAbsent

end Scrutiny.Focus
