import Scrutiny.Proofs.Rule.Absence

/-!
# What is overlooked

The wish to overlook absence is about absent values. Rules see it only where a value is absent, so
that it makes no difference to a value that is there. The rule on flags that were not provided is
the exception: its caller has found out what is absent, and the focused value is not looked at.
Rules that judge their arguments alone do not see the wish at all.
-/

set_option autoImplicit false

namespace Scrutiny

/-- A focus with the wish to overlook absence, or without it. -/
def Focus.overlooking (f : Focus) (b : Bool) : Focus := { f with skipAbsent := b }

/-- Whether a rule is told by its caller that something was not provided. -/
def Rule.isUnprovided : Rule → Bool
  | .required (.trueOrFalse provided) => !provided.isTrue
  | _ => false

theorem Focus.skips_of_present {f : Focus} (h : f.value ≠ .null) : f.skips = false := by
  rw [Focus.skips, Value.isNull_of_ne h, Bool.false_and]

theorem Focus.skips_overlooking {f : Focus} (h : f.value ≠ .null) (b : Bool) :
    (f.overlooking b).skips = f.skips := by
  have hb : (f.overlooking b).value ≠ .null := h
  rw [skips_of_present h, skips_of_present hb]

theorem Focus.missing_eq (f : Focus) :
    (f.value.isNull && !f.skipAbsent) = (f.value.isNull && !f.skips) := by
  unfold Focus.skips
  cases f.value.isNull <;> rfl

section
variable (f : Focus) (b : Bool)

theorem Whole.judge_overlooking (r : Whole) : r.judge (f.overlooking b) = r.judge f := by
  cases r with
  | zeroOrGreater w => cases w <;> rfl
  | _ => rfl

theorem Amount.judge_overlooking (r : Amount) : r.judge (f.overlooking b) = r.judge f := by
  cases r <;> rfl

theorem Wording.judge_overlooking (r : Wording) : r.judge (f.overlooking b) = r.judge f := by
  cases r <;> rfl

theorem Day.judge_overlooking (r : Day) : r.judge (f.overlooking b) = r.judge f := by
  cases r <;> rfl

theorem Schedule.judge_overlooking (checkers : Checkers) (r : Schedule) :
    r.judge checkers (f.overlooking b) = r.judge checkers f := by
  cases r with
  | recurrence rule => cases rule <;> rfl
  | cron => rfl

theorem Outright.judge_overlooking (r : Outright) : r.judge (f.overlooking b) = r.judge f := by
  cases r <;> rfl

end

section
variable {f : Focus} {b : Bool}

theorem Required.judge_overlooking (hs : (f.overlooking b).skips = f.skips) {r : Required}
    (hr : (Rule.required r).isUnprovided = false) : r.judge (f.overlooking b) = r.judge f := by
  cases r with
  | present =>
    have hm : ((f.overlooking b).value.isNull && !(f.overlooking b).skipAbsent) =
        (f.value.isNull && !f.skipAbsent) := by
      rw [Focus.missing_eq, Focus.missing_eq, hs]
      rfl
    simp only [Required.judge, hm]
    rfl
  | nonBlank =>
    simp only [Required.judge, hs]
    rfl
  | nonEmptyArray =>
    simp only [Required.judge, hs]
    rfl
  | nonEmptyCollection => rfl
  | whenOtherIs name v => rfl
  | trueOrFalse provided =>
    have hp : provided.isTrue = true := by simpa [Rule.isUnprovided] using hr
    simp [Required.judge, hp]

theorem Linked.judge_overlooking (hs : (f.overlooking b).skips = f.skips) (r : Linked) :
    r.judge (f.overlooking b) = r.judge f := by
  cases r with
  | anyGiven values => rfl
  | blankWhen name v =>
    simp only [Linked.judge, hs]
    rfl
  | blankWhenIs name v =>
    simp only [Linked.judge, hs]
    rfl
  | _ =>
    simp only [Linked.judge, Focus.bothAbsent, hs]
    rfl

theorem Choice.judge_overlooking (hs : (f.overlooking b).skips = f.skips) (r : Choice) :
    r.judge (f.overlooking b) = r.judge f := by
  cases r with
  | noneOf values => rfl
  | _ =>
    simp only [Choice.judge, Choice.judgeTexts, hs]
    rfl

theorem Rule.judge_overlooking (checkers : Checkers) (hs : (f.overlooking b).skips = f.skips)
    {r : Rule} (hr : r.isUnprovided = false) :
    r.judge checkers (f.overlooking b) = r.judge checkers f := by
  cases r with
  | required r => exact Required.judge_overlooking hs hr
  | linked r => exact r.judge_overlooking hs
  | whole r => exact r.judge_overlooking f b
  | amount r => exact r.judge_overlooking f b
  | choice r => exact r.judge_overlooking hs
  | wording r => exact r.judge_overlooking f b
  | day r => exact r.judge_overlooking f b
  | schedule r => exact r.judge_overlooking f b checkers
  | outright r => exact r.judge_overlooking f b

end

theorem Rule.judge_heedless (checkers : Checkers) {r : Rule} (hr : r.readsFocus = false)
    (f : Focus) (b : Bool) : r.judge checkers (f.overlooking b) = r.judge checkers f := by
  cases r with
  | required r =>
    cases r with
    | whenOtherIs => rfl
    | _ => cases hr
  | linked r =>
    cases r with
    | anyGiven => rfl
    | _ => cases hr
  | whole => cases hr
  | amount r => exact r.judge_overlooking f b
  | choice => cases hr
  | wording r => exact r.judge_overlooking f b
  | day => cases hr
  | schedule r => exact r.judge_overlooking f b checkers
  | outright r => exact r.judge_overlooking f b

/-- What was not provided is overlooked whatever the value is, and else reported. -/
theorem Rule.judge_unprovided (checkers : Checkers) {r : Rule} (hr : r.isUnprovided = true)
    (f : Focus) : r.judge checkers (f.overlooking true) = Verdict.pass ∧
      ∃ e, r.judge checkers (f.overlooking false) = Verdict.violated e := by
  cases r with
  | required r =>
    cases r with
    | trueOrFalse provided =>
      have hp : provided.isTrue = false := by simpa [Rule.isUnprovided] using hr
      constructor
      · simp [Rule.judge, Required.judge, Focus.overlooking]
      · have hs : (f.overlooking false).skipAbsent = false := rfl
        simp only [Rule.judge, Required.judge, hp, hs]
        exact ⟨_, rfl⟩
    | _ => cases hr
  | _ => cases hr

/-- Where there is a value the wish to overlook absence changes no verdict, but that on what the
caller says was not provided; it changes none on arguments alone. -/
theorem wish_covers_absence (checkers : Checkers) (f : Focus) (r : Rule) :
    (f.value ≠ .null → r.isUnprovided = false →
      r.judge checkers (f.overlooking true) = r.judge checkers (f.overlooking false)) ∧
    (r.readsFocus = false →
      r.judge checkers (f.overlooking true) = r.judge checkers (f.overlooking false)) ∧
    (r.isUnprovided = true → r.judge checkers (f.overlooking true) = Verdict.pass ∧
      ∃ e, r.judge checkers (f.overlooking false) = Verdict.violated e) := by
  refine ⟨fun hv hr => ?_, fun hr => ?_, fun hr => Rule.judge_unprovided checkers hr f⟩
  · have hs : ∀ b, (f.overlooking b).skips = f.skips := Focus.skips_overlooking hv
    rw [Rule.judge_overlooking checkers (hs true) hr, Rule.judge_overlooking checkers (hs false) hr]
  · rw [Rule.judge_heedless checkers hr, Rule.judge_heedless checkers hr]

theorem wish_covers_absence_of_blank :
    let checkers : Checkers := fun _ _ => .ok .valid
    let f : Focus := { resource := some "client", field := some "name", value := .text " " }
    let blank : Rule := .required .nonBlank
    let whenOther : Rule := .required (.whenOtherIs "kind" (.int 1))
    let unprovided : Rule := .required (.trueOrFalse (.bool false))
    (f.value ≠ .null ∧ blank.isUnprovided = false ∧
      blank.judge checkers (f.overlooking true) = blank.judge checkers (f.overlooking false)) ∧
    (whenOther.readsFocus = false ∧
      whenOther.judge checkers (f.overlooking true) =
        whenOther.judge checkers (f.overlooking false)) ∧
    (unprovided.isUnprovided = true ∧
      unprovided.judge checkers (f.overlooking true) = Verdict.pass) := by
  intro checkers f blank whenOther unprovided
  have hv : f.value ≠ .null := by simp [f]
  refine ⟨⟨hv, rfl, ?_⟩, ⟨rfl, ?_⟩, ⟨rfl, ?_⟩⟩
  · exact (wish_covers_absence checkers f blank).1 hv rfl
  · exact (wish_covers_absence checkers f whenOther).2.1 rfl
  · exact ((wish_covers_absence checkers f unprovided).2.2 rfl).1

/-- A flag that was not provided is overlooked although there is a value. -/
theorem unprovided_flag_overlooked : ¬ ∀ (checkers : Checkers) (f : Focus) (r : Rule),
    f.value ≠ .null →
      r.judge checkers (f.overlooking true) = r.judge checkers (f.overlooking false) := by
  intro h
  have hv := h (fun _ _ => .ok .valid)
    { resource := some "client", field := some "active", value := .text "yes" }
    (.required (.trueOrFalse (.bool false))) (by simp)
  cases hv

end Scrutiny
