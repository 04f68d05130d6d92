import Scrutiny.Rule.Verdict
import Scrutiny.Value.Reading

/-!
Rules on presence: a value has to be there, to hold more than blanks, or to hold items. A
violation of the first two names the place in a list, in its code by the part and in the reported
field by part and index; an index too long to be written makes them fail.
-/

set_option autoImplicit false

namespace Scrutiny

inductive Required where
  | present
  | nonBlank
  | nonEmptyArray
  | nonEmptyCollection
  /-- Required because another parameter has a certain value, which the caller has found out. -/
  | whenOtherIs (name : String) (value : Value)
  /-- Required to have been given as true or false, which the caller has found out. -/
  | trueOrFalse (provided : Value)

namespace Focus

/-- The violation of a missing value; there is none if its place cannot be written. -/
def mandatory (f : Focus) : Verdict :=
  match f.reportedField? with
  | some name =>
    let args := match f.named? with
      | some p => [Value.int p.index]
      | none => []
    Verdict.violated (violation (f.elementCode "cannot.be.blank")
      (.text (aboutParameter name "is mandatory.")) (some name) .null args)
  | none => .error .wrongValue

def noItems (f : Focus) : Verdict :=
  f.report "cannot.be.empty" "cannot be empty. You must select at least one." .null []

end Focus

namespace Required

def judge (f : Focus) : Required → Verdict
  | .present => if f.value.isNull && !f.skipAbsent then f.mandatory else Verdict.pass
  | .nonBlank => do
    if f.skips then Verdict.pass
    else if ← f.value.isBlank then f.mandatory
    else Verdict.pass
  | .nonEmptyArray => do
    if f.skips then Verdict.pass
    else if f.value.isNull then f.noItems
    else if (← f.value.asSequence f.field).isEmpty then f.noItems
    else Verdict.pass
  | .nonEmptyCollection => f.judgePresent fun v => do
    if (← v.asCollection f.field).isEmpty then f.noItems else Verdict.pass
  | .whenOtherIs name value => do
    if ← f.value.isBlank then
      let t ← value.wordingText
      f.report ("must.be.provided.when." ++ name ++ ".is." ++ t)
        ("must be provided when `" ++ name ++ "` is " ++ t) f.value [.text name, value]
    else Verdict.pass
  | .trueOrFalse provided =>
    if provided.isTrue || f.skipAbsent then Verdict.pass
    else f.report "must.be.true.or.false" "must be set as true or false." .null []

end Required
end Scrutiny
