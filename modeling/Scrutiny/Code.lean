import Scrutiny.Focus
import Scrutiny.Fault
import Scrutiny.Value.Shown

/-!
Codes of violations. A code is a chain of names joined by points: a fixed start, the resource,
the parameter, in some cases the part of a list element, and what is wrong. Shorter forms leave
out the parameter, or the resource too. A missing name is written `null`.
-/

set_option autoImplicit false

namespace Scrutiny

def codeStart : String := "validation.msg"

def nameText (name : Option String) : String := name.getD "null"

def dotted (parts : List String) : String := String.intercalate "." parts

namespace Focus

def fieldCode (f : Focus) (suffix : String) : String :=
  dotted [codeStart, nameText f.resource, nameText f.field, suffix]

/-- The code with the part of the list element, if one is focused. -/
def elementCode (f : Focus) (suffix : String) : String :=
  match f.named? with
  | some p => dotted [codeStart, nameText f.resource, nameText f.field, p.part, suffix]
  | none => f.fieldCode suffix

def linkedCode (f : Focus) (linked suffix : String) : String :=
  dotted [codeStart, nameText f.resource, linked, suffix]

def resourceCode (f : Focus) (suffix : String) : String :=
  dotted [codeStart, nameText f.resource, suffix]

end Focus

def fixedCode (suffix : String) : String := codeStart ++ "." ++ suffix

def aboutParameter (name text : String) : String :=
  "The parameter `" ++ name ++ "` " ++ text

def recordOf (code message field rejected : Value) (args : List Value) :
    Except Fault ErrorRecord := do
  let name ← if field.isNull then pure "" else field.wordingText
  return ⟨code, message, .text name, rejected, args⟩

def violation (code : String) (message : Value) (field : Option String) (rejected : Value)
    (args : List Value) : ErrorRecord :=
  ⟨.text code, message, .text (field.getD ""), rejected, args⟩

end Scrutiny
