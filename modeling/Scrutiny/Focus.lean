import Scrutiny.Value.Basic
import Scrutiny.Text.Blank

/-!
The focus: which parameter of which resource is being looked at, at which place of a list, with
which value, and whether its absence is to be overlooked. Setting a part gives a new focus; a new
field forgets the place in a list.
-/

set_option autoImplicit false

namespace Scrutiny

open Text

structure Position where
  part : String
  index : Int
  deriving DecidableEq

/-- A position counts only if its part has a name. -/
def Position.isNamed (p : Position) : Bool := !isAllBlank p.part.toList

structure Focus where
  resource : Option String := none
  field : Option String := none
  position : Option Position := none
  value : Value := .null
  skipAbsent : Bool := false

namespace Focus

def withResource (f : Focus) (name : Option String) : Focus :=
  { f with resource := name }

def withField (f : Focus) (name : Option String) : Focus :=
  { f with field := name, position := none }

def atPosition (f : Focus) (p : Position) : Focus := { f with position := some p }

def withValue (f : Focus) (v : Value) : Focus := { f with value := v }

def skippingAbsent (f : Focus) : Focus := { f with skipAbsent := true }

def skips (f : Focus) : Bool := f.value.isNull && f.skipAbsent

def named? (f : Focus) : Option Position := f.position.filter Position.isNamed

/-- The parameter's name with its place in a list, unless the index is too long to be written. -/
def reportedField? (f : Focus) : Option String :=
  let name := f.field.getD ""
  match f.named? with
  | some p => do
    let index ← integerText? p.index
    return name ++ "[" ++ String.ofList index ++ "][" ++ p.part ++ "]"
  | none => some name

end Focus
end Scrutiny
