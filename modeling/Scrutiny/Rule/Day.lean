import Scrutiny.Rule.Verdict
import Scrutiny.Value.Reading

/-!
Rules on dates: the focused day against a bound. Either may be a date, a moment, of which only
the day counts, or date text; an absent one passes. Records hold the two days, not what they were
read from.
-/

set_option autoImplicit false

namespace Scrutiny

open Calendar

inductive Day where
  | after (bound : Value)
  | before (bound : Value)
  | beforeOrEqual (bound : Value)
  | equalTo (bound : Value)

namespace Focus

def judgeDay (f : Focus) (bound : Value) (fails : Date → Date → Bool) (suffix text : String) :
    Verdict :=
  f.judgePresent fun v => Verdict.unlessNull bound do
    let day ← v.asDate f.field
    let limit ← bound.asDate f.field
    if fails day limit then
      f.report suffix (text ++ String.ofList limit.iso) (.date day) [.date day, .date limit]
    else Verdict.pass

end Focus

namespace Day

def judge (f : Focus) : Day → Verdict
  | .after b =>
    f.judgeDay b (fun day limit => day.before limit) "is.less.than.date"
      "must be greater than the provided date "
  | .before b =>
    f.judgeDay b (fun day limit => limit.before day) "is.greater.than.date"
      "must be less than the provided date "
  | .beforeOrEqual b =>
    f.judgeDay b (fun day limit => limit.before day) "is.greater.than.date"
      "must be less than or equal to the provided date: "
  | .equalTo b =>
    f.judgeDay b (fun day limit => day != limit) "is.not.equal.to.date"
      "must be equal to the provided date "

end Day
end Scrutiny
