import Scrutiny.Rule.Verdict
import Scrutiny.Value.Multiple
import Scrutiny.Value.Order
import Scrutiny.Value.Reading

/-!
Rules on integers of either width. An absent value passes; a value that is no integer of the
width is refused. Bounds are values of the caller, compared as they are, and a bound that is
optional does not count when it is missing.
-/

set_option autoImplicit false

namespace Scrutiny

inductive Whole where
  | between (minimum maximum : Value)
  | zeroOrGreater (w : Width)
  | greaterThanZero (w : Width)
  | greaterThan (w : Width) (bound : Value)
  /-- The bound is one of several under a name and an index, which the code repeats. -/
  | greaterThanAt (name : String) (bound index : Value)
  | atLeast (bound : Value)
  | sameAs (number : Value)
  | multipleOf (number : Value)
  | notBelow (minimum : Value)
  | notAbove (maximum : Value)

namespace Focus

/-- Reads the focused integer, if there is one, and reports it when a test fails it. The text
is only made for a report. -/
def judgeWhole (f : Focus) (w : Width) (fails : Value → Except Fault Bool) (suffix : String)
    (text : Except Fault String) (bounds : List Value) : Verdict :=
  f.judgePresent fun v => do
    let n ← v.asInteger f.field w
    if ← fails (.int n) then f.report suffix (← text) v (.int n :: bounds) else Verdict.pass

end Focus

namespace Whole

open Focus

def judge (f : Focus) : Whole → Verdict
  | .between low high =>
    f.judgeWhole .short (fun n => do if ← n.less low then return true else n.greater high)
      "is.not.within.expected.range"
      (do return "must be between " ++ (← low.plainText) ++ " and " ++ (← high.plainText) ++ ".")
      [low, high]
  | .zeroOrGreater .short =>
    f.judgeWhole .short (·.less (.int 0)) "not.zero.or.greater" (.ok "must be zero or greater.")
      [.int 0]
  | .zeroOrGreater .long =>
    f.judgeWhole .long (·.less (.int 0)) "not.equal.or.greater.than.zero"
      (.ok "must be equal or greater than 0.") [.int 0]
  | .greaterThanZero w =>
    f.judgeWhole w (·.less (.int 1)) "not.greater.than.zero" (.ok "must be greater than 0.")
      [.int 0]
  | .greaterThan w b =>
    f.judgeWhole w (·.atMost b) "not.greater.than.specified.number"
      (endingIn "must be greater than " b) [b]
  | .greaterThanAt name b index =>
    f.judgePresent fun v => do
      let n ← v.asInteger f.field .long
      if ← (Value.int n).atMost b then
        let place ← index.plainText
        f.report ("not.greater.than.specified." ++ name ++ ".at Index." ++ place)
          (← endingIn "must be greater than " b) v [.int n, b]
      else Verdict.pass
  | .atLeast b =>
    f.judgeWhole .short (·.less b) "not.equal.to.or.greater.than.specified.number"
      (endingIn "must be equal to or greater than " b) [b]
  | .sameAs b =>
    f.judgeWhole .short (fun n => do return !(← n.equal b)) "not.equal.to.specified.number"
      (endingIn "must be same as " b) [b]
  | .multipleOf b =>
    f.judgePresent fun _ => do
      if ← b.equal (.int 0) then .error (.refused (.zeroMultiple f.field))
      else
        f.judgeWhole .short
          (fun n => do if ← n.less b then return true else return !(← n.isMultipleOf b))
          "not.in.multiples.of.specified.number" (endingIn "must be multiples of " b) [b]
  | .notBelow b =>
    Verdict.unlessNull b (f.judgeWhole .short (·.less b) "is.less.than.min"
      (endingIn "must be greater than the minimum value " b) [b])
  | .notAbove b =>
    Verdict.unlessNull b (f.judgeWhole .short (·.greater b) "is.greater.than.max"
      (endingIn "must be less than the maximum value " b) [b])

end Whole
end Scrutiny
