import Scrutiny.Rule

/-!
# What rules write in their reports

The code, the message and the field of a record may be values of any kind, but a report for
clients has texts there. Rules write nothing but texts: whatever a rule reports is spelled out,
and the value that was refused and the arguments are the only parts that are values of the caller.
-/

set_option autoImplicit false

namespace Scrutiny

/-- A record whose code, message and field are texts. -/
inductive ErrorRecord.IsSpelled : ErrorRecord → Prop
  | mk (code message field : String) (rejected : Value) (args : List Value) :
      IsSpelled ⟨.text code, .text message, .text field, rejected, args⟩

/-- Whatever a verdict reports is spelled out. -/
def Verdict.IsSpelled (v : Verdict) : Prop := ∀ e, v = .ok (some e) → e.IsSpelled

namespace Verdict

theorem spelled_pass : pass.IsSpelled := by
  intro e h
  cases h

theorem spelled_error (x : Fault) : IsSpelled (.error x) := by
  intro e h
  cases h

theorem spelled_violated (code message : String) (field : Option String) (rejected : Value)
    (args : List Value) :
    (violated (violation code (.text message) field rejected args)).IsSpelled := by
  intro e h
  cases h
  exact .mk code message (field.getD "") rejected args

theorem spelled_ite {c : Prop} [Decidable c] {v w : Verdict} (hv : v.IsSpelled)
    (hw : w.IsSpelled) : (if c then v else w).IsSpelled := by
  split
  · exact hv
  · exact hw

theorem spelled_bind {α : Type} {x : Except Fault α} {k : α → Verdict}
    (h : ∀ a, (k a).IsSpelled) : IsSpelled (x >>= k) := by
  cases x with
  | error f => exact spelled_error f
  | ok a => exact h a

theorem spelled_unlessNull (bound : Value) {v : Verdict} (h : v.IsSpelled) :
    (unlessNull bound v).IsSpelled :=
  spelled_ite spelled_pass h

end Verdict
open Verdict

namespace Focus
variable (f : Focus)

theorem report_spelled (suffix text : String) (rejected : Value) (args : List Value) :
    (f.report suffix text rejected args).IsSpelled :=
  spelled_violated _ _ _ _ _

theorem judgePresent_spelled {judge : Value → Verdict} (h : ∀ v, (judge v).IsSpelled) :
    (f.judgePresent judge).IsSpelled :=
  spelled_ite spelled_pass (h f.value)

theorem judgeWhole_spelled (w : Width) (fails : Value → Except Fault Bool) (suffix : String)
    (text : Except Fault String) (bounds : List Value) :
    (f.judgeWhole w fails suffix text bounds).IsSpelled := by
  refine f.judgePresent_spelled fun v => spelled_bind fun n => spelled_bind fun failed => ?_
  exact spelled_ite (spelled_bind fun t => f.report_spelled _ _ _ _) spelled_pass

theorem judgeAmount_spelled (fails : Decimal → Except Fault Bool) (suffix : Except Fault String)
    (text : Decimal → Except Fault String) (bounds : List Value) :
    (f.judgeAmount fails suffix text bounds).IsSpelled := by
  refine f.judgePresent_spelled fun v => spelled_bind fun d => spelled_bind fun failed => ?_
  refine spelled_ite (spelled_bind fun s => spelled_bind fun t => ?_) spelled_pass
  exact f.report_spelled _ _ _ _

theorem judgeDay_spelled (bound : Value) (fails : Calendar.Date → Calendar.Date → Bool)
    (suffix text : String) : (f.judgeDay bound fails suffix text).IsSpelled := by
  refine f.judgePresent_spelled fun v => spelled_unlessNull bound ?_
  refine spelled_bind fun day => spelled_bind fun limit => spelled_ite ?_ spelled_pass
  exact f.report_spelled _ _ _ _

theorem reportChoice_spelled (suffix text : String) (values : List Value) :
    (f.reportChoice suffix text values).IsSpelled :=
  spelled_bind fun _ => f.report_spelled _ _ _ _

theorem judgeToken_spelled (t : List Char) (separator : Value) :
    (Wording.judgeToken f t separator).IsSpelled := by
  refine f.judgePresent_spelled fun v => spelled_bind fun tokens => spelled_bind fun w => ?_
  exact spelled_ite spelled_pass (f.report_spelled _ _ _ _)

theorem reportLinked_spelled (name suffix text : String) (linked : Value) :
    (f.reportLinked name suffix text linked).IsSpelled :=
  spelled_violated _ _ _ _ _

theorem mandatory_spelled : f.mandatory.IsSpelled := by
  unfold mandatory
  split
  · exact spelled_violated _ _ _ _ _
  · exact spelled_error _

theorem noItems_spelled : f.noItems.IsSpelled := f.report_spelled _ _ _ _

end Focus

section
variable (f : Focus)

theorem Required.judge_spelled (r : Required) : (r.judge f).IsSpelled := by
  cases r with
  | present => exact spelled_ite f.mandatory_spelled spelled_pass
  | nonBlank =>
    refine spelled_ite spelled_pass (spelled_bind fun blank => ?_)
    exact spelled_ite f.mandatory_spelled spelled_pass
  | nonEmptyArray =>
    refine spelled_ite spelled_pass (spelled_ite f.noItems_spelled ?_)
    exact spelled_bind fun items => spelled_ite f.noItems_spelled spelled_pass
  | nonEmptyCollection =>
    refine f.judgePresent_spelled fun v => spelled_bind fun items => ?_
    exact spelled_ite f.noItems_spelled spelled_pass
  | whenOtherIs name value =>
    refine spelled_bind fun blank => spelled_ite (spelled_bind fun t => ?_) spelled_pass
    exact f.report_spelled _ _ _ _
  | trueOrFalse provided => exact spelled_ite spelled_pass (f.report_spelled _ _ _ _)

theorem Linked.judge_spelled (r : Linked) : (r.judge f).IsSpelled := by
  cases r with
  | nonBlankToo name value =>
    refine spelled_ite spelled_pass (spelled_bind fun blank => ?_)
    exact spelled_ite (f.reportLinked_spelled _ _ _ _) spelled_pass
  | equalTo name value =>
    refine spelled_ite spelled_pass (spelled_bind fun same => ?_)
    exact spelled_ite spelled_pass (f.reportLinked_spelled _ _ _ _)
  | differentFrom name value =>
    refine spelled_ite spelled_pass (spelled_bind fun same => ?_)
    exact spelled_ite (f.reportLinked_spelled _ _ _ _) spelled_pass
  | blankWhen name value =>
    refine spelled_ite spelled_pass (spelled_bind fun blank => ?_)
    exact spelled_ite spelled_pass (f.report_spelled _ _ _ _)
  | blankWhenIs name value =>
    refine spelled_ite spelled_pass (spelled_bind fun blank => ?_)
    exact spelled_ite spelled_pass (spelled_bind fun t => f.report_spelled _ _ _ _)
  | anyGiven values => exact spelled_ite spelled_pass (spelled_violated _ _ _ _ _)

theorem Whole.judge_spelled (r : Whole) : (r.judge f).IsSpelled := by
  cases r with
  | zeroOrGreater w => cases w <;> rw [judge] <;> exact f.judgeWhole_spelled _ _ _ _ _
  | greaterThanAt name b index =>
    rw [judge]
    refine f.judgePresent_spelled fun v => spelled_bind fun n => spelled_bind fun failed => ?_
    refine spelled_ite (spelled_bind fun place => spelled_bind fun t => ?_) spelled_pass
    exact f.report_spelled _ _ _ _
  | multipleOf b =>
    rw [judge]
    refine f.judgePresent_spelled fun v => spelled_bind fun zero => ?_
    exact spelled_ite (spelled_error _) (f.judgeWhole_spelled _ _ _ _ _)
  | notBelow b => exact spelled_unlessNull b (f.judgeWhole_spelled _ _ _ _ _)
  | notAbove b => exact spelled_unlessNull b (f.judgeWhole_spelled _ _ _ _ _)
  | _ =>
    rw [judge]
    exact f.judgeWhole_spelled _ _ _ _ _

theorem Amount.unlessOrdered_spelled (low high : Value) {v : Verdict} (h : v.IsSpelled) :
    (unlessOrdered low high v).IsSpelled :=
  spelled_ite spelled_pass (spelled_bind fun _ => spelled_ite spelled_pass h)

theorem Amount.judge_spelled (r : Amount) : (r.judge f).IsSpelled := by
  cases r with
  | notBelow b => exact spelled_unlessNull b (f.judgeAmount_spelled _ _ _ _)
  | notAbove b => exact spelled_unlessNull b (f.judgeAmount_spelled _ _ _ _)
  | between low high =>
    exact spelled_unlessNull low (spelled_unlessNull high (f.judgeAmount_spelled _ _ _ _))
  | orderedAmounts low high =>
    refine unlessOrdered_spelled low high (spelled_bind fun a => spelled_bind fun b => ?_)
    exact f.report_spelled _ _ _ _
  | orderedNumbers low high =>
    refine unlessOrdered_spelled low high (spelled_bind fun a => spelled_bind fun b => ?_)
    exact spelled_violated _ _ _ _ _
  | _ => exact f.judgeAmount_spelled _ _ _ _

theorem Choice.judgeTexts_spelled (values : List Value) : (judgeTexts f values).IsSpelled := by
  refine spelled_ite spelled_pass (spelled_bind fun allowed => spelled_ite ?_ ?_)
  · exact f.reportChoice_spelled _ _ _
  · exact spelled_bind fun t => spelled_ite spelled_pass (f.reportChoice_spelled _ _ _)

theorem Choice.judge_spelled (r : Choice) : (r.judge f).IsSpelled := by
  cases r with
  | oneOf values =>
    refine spelled_ite spelled_pass (spelled_ite (f.reportChoice_spelled _ _ _) ?_)
    exact spelled_bind fun found => spelled_ite spelled_pass (f.reportChoice_spelled _ _ _)
  | oneOfTexts values => exact judgeTexts_spelled f values
  | oneOfNames e => exact judgeTexts_spelled f _
  | noneOf values =>
    refine f.judgePresent_spelled fun v => spelled_bind fun found => ?_
    exact spelled_ite (f.reportChoice_spelled _ _ _) spelled_pass

theorem Wording.judge_spelled (r : Wording) : (r.judge f).IsSpelled := by
  cases r with
  | flag value =>
    refine spelled_ite spelled_pass (spelled_bind fun t => ?_)
    exact spelled_ite spelled_pass (f.report_spelled _ _ _ _)
  | token tokens separator => exact f.judgeToken_spelled _ _
  | listedToken separator tokens => exact spelled_bind fun ts => f.judgeToken_spelled _ _
  | matching expression message =>
    rw [judge]
    refine f.judgePresent_spelled fun v => spelled_bind fun t => spelled_bind fun p => ?_
    exact spelled_ite spelled_pass (spelled_violated _ _ _ _ _)
  | phoneNumber =>
    rw [judge]
    refine f.judgePresent_spelled fun v => spelled_bind fun t => ?_
    exact spelled_ite spelled_pass (f.report_spelled _ _ _ _)
  | lengthAtMost limit =>
    rw [judge]
    refine f.judgePresent_spelled fun v => spelled_bind fun t => spelled_bind fun fits => ?_
    exact spelled_ite spelled_pass (spelled_bind fun m => f.report_spelled _ _ _ _)
  | listLengthAtMost limit =>
    rw [judge]
    split
    · exact spelled_pass
    · refine spelled_bind fun fits => spelled_ite spelled_pass (spelled_bind fun m => ?_)
      exact f.report_spelled _ _ _ _

theorem Day.judge_spelled (r : Day) : (r.judge f).IsSpelled := by
  cases r <;> exact f.judgeDay_spelled _ _ _ _

theorem Schedule.verdict_spelled (t : String) (c : Check) (r : Schedule) :
    (r.verdict f t c).IsSpelled := by
  cases r with
  | recurrence rule =>
    rw [verdict]
    split
    · exact spelled_pass
    · exact spelled_violated _ _ _ _ _
    · exact spelled_violated _ _ _ _ _
  | cron => exact spelled_ite spelled_pass (f.report_spelled _ _ _ _)

theorem Schedule.judge_spelled (checkers : Checkers) (r : Schedule) :
    (r.judge checkers f).IsSpelled := by
  refine spelled_bind fun question => ?_
  cases question with
  | none => exact spelled_pass
  | some t => exact spelled_bind fun c => r.verdict_spelled f t c

theorem Outright.judge_spelled (r : Outright) : (r.judge f).IsSpelled := by
  cases r with
  | withCode suffix args => exact spelled_violated _ _ _ _ _
  | withResourceCode suffix args => exact spelled_violated _ _ _ _ _
  | invalidValue kind v => exact f.report_spelled _ _ _ _
  | notAnArray => exact f.report_spelled _ _ _ _

theorem Rule.judge_spelled (checkers : Checkers) (r : Rule) : (r.judge checkers f).IsSpelled := by
  cases r with
  | required r => exact r.judge_spelled f
  | linked r => exact r.judge_spelled f
  | whole r => exact r.judge_spelled f
  | amount r => exact r.judge_spelled f
  | choice r => exact r.judge_spelled f
  | wording r => exact r.judge_spelled f
  | day r => exact r.judge_spelled f
  | schedule r => exact r.judge_spelled f checkers
  | outright r => exact r.judge_spelled f

end
end Scrutiny
