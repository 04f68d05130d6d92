import Scrutiny.Rule.Verdict
import Scrutiny.Value.Order
import Scrutiny.Value.Reading

/-!
Rules on decimal amounts. An absent value passes; a value that is no finite number is refused.
A missing bound switches its rule off. Two of the rules look at a pair of bounds alone and demand
that the first is not above the second.
-/

set_option autoImplicit false

namespace Scrutiny

inductive Amount where
  | positive
  | zeroOrPositive
  | notBelow (minimum : Value)
  | notAbove (maximum : Value)
  | between (minimum maximum : Value)
  | scaleAtMost (scale : Value)
  | orderedAmounts (minimum maximum : Value)
  | orderedNumbers (minimum maximum : Value)

namespace Focus

/-- Reads the focused amount, if there is one, and reports it when a test fails it. The code's
end and the text are only made for a report. -/
def judgeAmount (f : Focus) (fails : Decimal → Except Fault Bool) (suffix : Except Fault String)
    (text : Decimal → Except Fault String) (bounds : List Value) : Verdict :=
  f.judgePresent fun v => do
    let d ← v.asDecimal f.field
    if ← fails d then f.report (← suffix) (← text d) v (.decimal d :: bounds) else Verdict.pass

end Focus

namespace Amount

def around (before after : String) (b : Value) (d : Decimal) : Except Fault String := do
  return before ++ (← (Value.decimal d).plainText) ++ (← endingIn after b)

def unlessOrdered (low high : Value) (v : Verdict) : Verdict := do
  if low.isNull || high.isNull then Verdict.pass
  else if ← high.atLeast low then Verdict.pass
  else v

def judge (f : Focus) : Amount → Verdict
  | .positive =>
    f.judgeAmount (fun d => (Value.decimal d).atMost (.int 0)) (.ok "not.greater.than.zero")
      (fun _ => .ok "must be greater than 0.") [.int 0]
  | .zeroOrPositive =>
    f.judgeAmount (fun d => (Value.decimal d).less (.int 0)) (.ok "not.zero.or.greater")
      (fun _ => .ok "must be greater than or equal to 0.") [.int 0]
  | .notBelow b =>
    Verdict.unlessNull b (f.judgeAmount (fun d => (Value.decimal d).less b)
      (.ok "is.less.than.min")
      (around "value " " must not be less than the minimum value " b) [b])
  | .notAbove b =>
    Verdict.unlessNull b (f.judgeAmount (fun d => (Value.decimal d).greater b)
      (.ok "is.greater.than.max")
      (around "value " " must not be more than maximum value " b) [b])
  | .between low high =>
    Verdict.unlessNull low (Verdict.unlessNull high (f.judgeAmount
      (fun d => do
        if ← (Value.decimal d).less low then return true else (Value.decimal d).greater high)
      (.ok "amount.is.not.within.min.max.range")
      (fun d => do
        return (← around "amount " " must be between " low d) ++ (← endingIn " and " high) ++ " .")
      [low, high]))
  | .scaleAtMost s =>
    f.judgeAmount (fun d => do (Value.int (← d.scaleOf)).greater s)
      (endingIn "scale.is.greater.than." s)
      (fun d => do
        return (← around "value " " decimal place must not be more than " s d) ++ " places")
      [s]
  | .orderedAmounts low high => unlessOrdered low high do
    let text := (← endingIn "minimum amount " low) ++
      (← endingIn " should less than the maximum amount " high) ++ "."
    f.report "is.not.within.expected.range" text .null [low, high]
  | .orderedNumbers low high => unlessOrdered low high do
    let text := (← endingIn "The min number " low) ++
      (← endingIn " should less than max number " high) ++ "."
    Verdict.violated (violation (f.fieldCode "is.not.within.expected.range") (.text text)
      f.field .null [low, high])

end Amount
end Scrutiny
