import Scrutiny.Checkers
import Scrutiny.Proofs.Recurrence.Overlong
import Scrutiny.Proofs.Rule.Failing

/-!
# Rules on schedules

Both notations have a checker that answers every text, and the rules that ask them pass or report
one violation. There is one exception: a recurrence rule of which the first item that is not in
order is an integer with more digits than can be read is not answered at all.
-/

set_option autoImplicit false

namespace Scrutiny

open Text

namespace Cron

theorem checkWith_cases (takesCommon : List (List Char) → Bool) (ys : Years) (t : List Char) :
    checkWith takesCommon ys t = .valid ∨
      ∃ reason, checkWith takesCommon ys t = .invalid reason := by
  have six : ∀ s m h d mo w : List Char, checkSix takesCommon s m h d mo w = .valid ∨
      ∃ reason, checkSix takesCommon s m h d mo w = .invalid reason := by
    intro s m h d mo w
    unfold checkSix
    split
    · exact .inr ⟨_, rfl⟩
    split
    · exact .inr ⟨_, rfl⟩
    split
    · exact .inr ⟨_, rfl⟩
    split
    · exact .inl rfl
    · exact .inr ⟨_, rfl⟩
  unfold checkWith checkFields
  split
  · exact six _ _ _ _ _ _
  · split
    · exact six _ _ _ _ _ _
    · exact .inr ⟨_, rfl⟩
  · exact .inr ⟨_, rfl⟩

end Cron

namespace Verdict

def IsGiven (v : Verdict) : Prop := v = pass ∨ ∃ e, v = violated e

end Verdict

namespace Schedule

theorem verdict_isGiven (f : Focus) (t : String) (c : Check) (s : Schedule) :
    (s.verdict f t c).IsGiven := by
  cases s with
  | recurrence rule =>
    dsimp only [verdict]
    split
    · exact .inl rfl
    · exact .inr ⟨_, rfl⟩
    · exact .inr ⟨_, rfl⟩
  | cron =>
    dsimp only [verdict]
    split
    · exact .inl rfl
    · exact .inr ⟨_, rfl⟩

theorem judge_isGiven {checkers : Checkers} {f : Focus} {s : Schedule} {q : Option String}
    (hq : s.question f = .ok q) (h : ∀ t, q = some t → ∃ c, checkers s.form t = .ok c) :
    (s.judge checkers f).IsGiven := by
  cases q with
  | none => exact .inl (by simp [judge, hq, bind, Except.bind])
  | some t =>
    obtain ⟨c, hc⟩ := h t rfl
    have hj : s.judge checkers f = s.verdict f t c := by simp [judge, hq, hc, bind, Except.bind]
    rw [hj]
    exact verdict_isGiven f t c s

theorem judge_fault {checkers : Checkers} {f : Focus} {s : Schedule} {t : String} {x : Fault}
    (hq : s.question f = .ok (some t)) (h : checkers s.form t = .error x) :
    s.judge checkers f = .error x := by
  simp [judge, hq, h, bind, Except.bind]

theorem question_of_overlong {t : String} (h : Recurrence.Overlong t.toList) (f : Focus) :
    (recurrence (some t)).question f = .ok (some t) := by
  have hb : ¬ isAllBlank t.toList = true := fun hb =>
    Recurrence.not_overlong_of_blanks (List.all_eq_true.1 hb) h
  rw [question, if_neg hb]

end Schedule

/-- Every text is a schedule that is valid or is rejected, and every text that is not overlong is
answered as a recurrence rule, so that both rules give a verdict on it. One that is overlong has
more characters than an integer may have digits, and there the fault is that of reading an
integer. -/
theorem schedules_answered {read : Recurrence.Reading} {t : String}
    (hread : ∀ flaw, read (Recurrence.body t.toList) = .error flaw → flaw.reason? ≠ none)
    (takesCommon : List (List Char) → Bool) (ys : Cron.Years) (f : Focus) :
    let checkers := checkersWith read takesCommon ys
    let recurrence := (Rule.schedule (.recurrence (some t))).judge checkers f
    let cron := (Rule.schedule .cron).judge checkers { f with value := .text t }
    ((checkers .cron t = .ok .valid ∨ ∃ reason, checkers .cron t = .ok (.invalid reason)) ∧
      cron.IsGiven) ∧
    (¬ Recurrence.Overlong t.toList →
      (∃ c, checkers .recurrence t = .ok c) ∧ recurrence.IsGiven) ∧
    (Recurrence.Overlong t.toList → checkers .recurrence t = .error .wrongValue ∧
      recurrence = .error .wrongValue ∧ digitLimit < t.length) := by
  intro checkers recurrence cron
  refine ⟨⟨?_, ?_⟩, fun h => ?_, fun h => ?_⟩
  · rcases Cron.checkWith_cases takesCommon ys t.toList with hc | ⟨reason, hc⟩
    · exact .inl (congrArg Except.ok hc)
    · exact .inr ⟨reason, congrArg Except.ok hc⟩
  · exact Schedule.judge_isGiven (s := .cron) rfl fun u _ => ⟨_, rfl⟩
  · have hc := Recurrence.checkWith_of_not_overlong h hread
    refine ⟨hc, ?_⟩
    refine Schedule.judge_isGiven (s := .recurrence (some t)) rfl fun u hu => ?_
    split at hu
    · cases hu
    · cases hu
      exact hc
  · have hc := Recurrence.checkWith_of_overlong read h
    refine ⟨hc, Schedule.judge_fault (Schedule.question_of_overlong h f) hc, ?_⟩
    refine Nat.lt_of_not_le fun hle => Recurrence.not_overlong_of_length ?_ h
    rwa [String.length_toList]

theorem schedules_answered_rejected :
    let t := "FREQ=SOMETIMES"
    let checkers := checkersWith Recurrence.read Cron.takesFields ⟨1970, 2199⟩
    Recurrence.read (Recurrence.body t.toList) =
      .error (.invalid "FREQ".toList "SOMETIMES".toList) ∧
    (∃ c, checkers .recurrence t = .ok c) ∧
    ((Rule.schedule (.recurrence (some t))).judge checkers {}).IsGiven := by
  intro t checkers
  have hr : Recurrence.read (Recurrence.body "FREQ=SOMETIMES".toList) =
      .error (.invalid "FREQ".toList "SOMETIMES".toList) := by with_unfolding_all rfl
  have hread : ∀ flaw, Recurrence.read (Recurrence.body t.toList) = .error flaw →
      flaw.reason? ≠ none := by
    intro flaw hf
    cases hr.symm.trans hf
    exact nofun
  have h := schedules_answered hread Cron.takesFields ⟨1970, 2199⟩ {}
  exact ⟨hr, h.2.1 (Recurrence.not_overlong_of_length (by decide))⟩

theorem overlong_ones {k : Nat} (h : digitLimit ≤ k) :
    Recurrence.Overlong ("FREQ=DAILY;BYHOUR=".toList ++ List.replicate (k + 1) '1') := by
  have hone : ∀ {c}, c ∈ List.replicate (k + 1) '1' → c = '1' := List.eq_of_mem_replicate
  have hupper : upper (List.replicate (k + 1) '1') = List.replicate (k + 1) '1' :=
    upper_eq_self fun c hc => by rw [hone hc]; decide
  have hvalue : Recurrence.isValue (List.replicate (k + 1) '1') = true := by
    refine (Recurrence.isValue_iff _).2 ⟨List.cons_ne_nil _ _, fun hc => ?_, fun hc => ?_⟩
    · exact absurd (hone hc) (by decide)
    · exact absurd (hone hc) (by decide)
  refine Recurrence.overlong_hours (fun c hc => ?_) hupper hvalue (fun hc => ?_)
    ⟨isSignedDigits_ones k, ?_⟩
  · rw [hone hc]
    decide
  · exact absurd (hone hc) (by decide)
  · rw [signOf_ones, List.length_replicate]
    exact Nat.lt_succ_of_le h

/-- Hours of 4301 digits, which nothing answers. -/
theorem overlong_hour_unanswered :
    let t := String.ofList ("FREQ=DAILY;BYHOUR=".toList ++ List.replicate 4301 '1')
    let checkers := checkersWith Recurrence.read Cron.takesFields ⟨1970, 2199⟩
    checkers .recurrence t = .error .wrongValue ∧
      (Rule.schedule (.recurrence (some t))).judge checkers {} = .error .wrongValue := by
  intro t checkers
  have ht : Recurrence.Overlong t.toList := by
    rw [String.toList_ofList]
    exact overlong_ones (Nat.le_refl 4300)
  have hc := Recurrence.checkWith_of_overlong Recurrence.read ht
  exact ⟨hc, Schedule.judge_fault (Schedule.question_of_overlong ht {}) hc⟩

end Scrutiny
