import Scrutiny.Rule.Verdict
import Scrutiny.Value.Reading

/-!
Rules on two parameters. Those that demand something of the linked parameter report that
parameter, with a code that names the focused one at its end; those that demand something of the
focused parameter report the focused one.
-/

set_option autoImplicit false

namespace Scrutiny

inductive Linked where
  | nonBlankToo (name : String) (value : Value)
  | equalTo (name : String) (value : Value)
  | differentFrom (name : String) (value : Value)
  | blankWhen (name : String) (value : Value)
  | blankWhenIs (name : String) (value : Value)
  | anyGiven (values : List Value)

namespace Focus

def bothAbsent (f : Focus) (linked : Value) : Bool := f.skips && linked.isNull

def reportLinked (f : Focus) (name suffix text : String) (linked : Value) : Verdict :=
  Verdict.violated (violation (f.linkedCode name suffix)
    (.text ("The parameter `" ++ name ++ "` " ++ text)) (some name) linked [f.value])

def blankWhileGiven (f : Focus) (other : Value) : Except Fault Bool := do
  if f.value.isNull && !other.isNull then return true
  else if ← f.value.isBlank then return !(← other.isBlank)
  else return false

end Focus

namespace Linked

def judge (f : Focus) : Linked → Verdict
  | .nonBlankToo name value => do
    if f.bothAbsent value || f.value.isNull then Verdict.pass
    else if ← value.isBlank then
      f.reportLinked name ("cannot.be.empty.when." ++ nameText f.field ++ ".is.populated")
        ("cannot be empty when " ++ nameText f.field ++ " is populated.") value
    else Verdict.pass
  | .equalTo name value => do
    if f.bothAbsent value || f.value.isNull then Verdict.pass
    else if ← f.value.same value then Verdict.pass
    else
      f.reportLinked name ("not.equal.to." ++ nameText f.field)
        ("is not equal to " ++ nameText f.field ++ ".") value
  | .differentFrom name value => do
    if f.bothAbsent value || f.value.isNull then Verdict.pass
    else if ← f.value.same value then
      f.reportLinked name ("same.as." ++ nameText f.field)
        ("is same as " ++ nameText f.field ++ ".") value
    else Verdict.pass
  | .blankWhen name value => do
    if f.skips then Verdict.pass
    else if ← f.blankWhileGiven value then Verdict.pass
    else
      f.report ("cannot.also.be.provided.when." ++ name ++ ".is.populated")
        ("cannot also be provided when `" ++ name ++ "` is populated.") f.value
        [.text name, value]
  | .blankWhenIs name value => do
    if f.skips then Verdict.pass
    else if ← f.blankWhileGiven value then Verdict.pass
    else
      let t ← value.wordingText
      f.report ("cannot.also.be.provided.when." ++ name ++ ".is." ++ t)
        ("cannot also be provided when `" ++ name ++ "` is " ++ t) f.value [.text name, value]
  | .anyGiven values =>
    if values.any fun v => !v.isNull then Verdict.pass
    else
      Verdict.violated (violation (f.resourceCode "no.parameters.for.update")
        (.text "No parameters passed for update.") (some "id") .null [])

end Linked
end Scrutiny
