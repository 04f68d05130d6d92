import Scrutiny.Code
import Scrutiny.Value.Shown

/-!
Verdicts. A rule passes or reports one violation, unless it cannot judge at all. Most violations
are reported against the focused parameter with a code of its own and a message that names it.
-/

set_option autoImplicit false

namespace Scrutiny

abbrev Verdict := Except Fault (Option ErrorRecord)

namespace Verdict

def pass : Verdict := .ok none

def violated (e : ErrorRecord) : Verdict := .ok (some e)

def unlessNull (bound : Value) (v : Verdict) : Verdict := if bound.isNull then pass else v

end Verdict

def endingIn (text : String) (v : Value) : Except Fault String := do
  return text ++ (← v.plainText)

namespace Focus

def report (f : Focus) (suffix text : String) (rejected : Value) (args : List Value) : Verdict :=
  Verdict.violated (violation (f.fieldCode suffix)
    (.text (aboutParameter (nameText f.field) text)) f.field rejected args)

def judgePresent (f : Focus) (judge : Value → Verdict) : Verdict :=
  if f.value.isNull then Verdict.pass else judge f.value

theorem judgePresent_of_ne {f : Focus} (h : f.value ≠ .null) (judge : Value → Verdict) :
    f.judgePresent judge = judge f.value := by
  rw [judgePresent, Value.isNull_of_ne h]
  rfl

end Focus
end Scrutiny
