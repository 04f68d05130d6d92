import Scrutiny.Rule.Verdict
import Scrutiny.Text.LetterCase
import Scrutiny.Value.Equal

/-!
Rules on choices: a value has to be one of a list, as it is or by its text in lower case, or
none of a list. An absent value is none of any list. The names of an enumeration are such a list.
-/

set_option autoImplicit false

namespace Scrutiny

open Text

structure Enumeration where
  names : List String

namespace Enumeration

/-- The names of members but those for a value that has a name already. -/
def properNames : List (String × Value) → List (String × Value) → Except Fault (List String)
  | _, [] => .ok []
  | before, (name, v) :: rest => do
    if ← before.anyM fun e => e.2.equalWithin v then properNames before rest
    else return name :: (← properNames ((name, v) :: before) rest)

def ofMembers (members : List (String × Value)) : Except Fault Enumeration := do
  return ⟨← properNames [] members⟩

end Enumeration

inductive Choice where
  | oneOf (values : List Value)
  | oneOfTexts (values : List Value)
  | oneOfNames (e : Enumeration)
  | noneOf (values : List Value)

def Value.isSameAsSome (v : Value) (values : List Value) : Except Fault Bool :=
  values.anyM fun w => v.same w

namespace Focus

def reportChoice (f : Focus) (suffix text : String) (values : List Value) : Verdict := do
  let listed ← values.mapM Value.wordingText
  f.report suffix (text ++ " [ " ++ String.intercalate ", " listed ++ " ] .") f.value
    [f.value, .tuple values]

def notOneOf (f : Focus) (values : List Value) : Verdict :=
  f.reportChoice "is.not.one.of.expected.enumerations" "must be one of" values

end Focus

namespace Choice

def lowered (v : Value) : Except Fault (List Char) := do return lower (← v.wording)

def judgeTexts (f : Focus) (values : List Value) : Verdict := do
  if f.skips then Verdict.pass
  else
    let allowed ← values.mapM lowered
    if f.value.isNull then f.notOneOf values
    else if allowed.contains (← lowered f.value) then Verdict.pass
    else f.notOneOf values

def judge (f : Focus) : Choice → Verdict
  | .oneOf values => do
    if f.skips then Verdict.pass
    else if f.value.isNull then f.notOneOf values
    else if ← f.value.isSameAsSome values then Verdict.pass
    else f.notOneOf values
  | .oneOfTexts values => judgeTexts f values
  | .oneOfNames e => judgeTexts f (e.names.map .text)
  | .noneOf values => f.judgePresent fun v => do
    if ← v.isSameAsSome values then
      f.reportChoice "is.one.of.unwanted.enumerations" "must not be any of" values
    else Verdict.pass

end Choice
end Scrutiny
