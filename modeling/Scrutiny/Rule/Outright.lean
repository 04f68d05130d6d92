import Scrutiny.Rule.Verdict

/-!
Violations that the caller has found. They are reported whatever the focused value is, with a
code that the caller ends.
-/

set_option autoImplicit false

namespace Scrutiny

inductive Outright where
  | withCode (suffix : String) (args : List Value)
  /-- The code names the resource only. -/
  | withResourceCode (suffix : String) (args : List Value)
  | invalidValue (kind : String) (value : Value)
  | notAnArray

namespace Outright

def message (suffix : String) : Value := .text ("Failed data validation due to: " ++ suffix ++ ".")

def judge (f : Focus) : Outright → Verdict
  | .withCode suffix args =>
    Verdict.violated (violation (f.fieldCode suffix) (message suffix) f.field f.value args)
  | .withResourceCode suffix args =>
    Verdict.violated (violation (f.resourceCode suffix) (message suffix) f.field f.value args)
  | .invalidValue kind value =>
    f.report ("invalid." ++ kind) "has an invalid value." value [value]
  | .notAnArray => f.report "is.not.an.array" "is not an array." .null []

end Outright
end Scrutiny
