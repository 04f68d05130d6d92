import Scrutiny.Proofs.Calendar.Iso
import Scrutiny.Proofs.Rule.Amounts

/-!
# Days against days

Of a value the rules on dates see the day and nothing else: a date, a moment of that date, whatever
its time and its offset, and the date as text between blanks are judged alike and reported alike.
Days are in order, and the rules ask for the order of two of them. What is no date is refused by all
rules in the same way, before they ask for anything.
-/

set_option autoImplicit false

namespace Scrutiny

open Text Calendar

namespace Calendar.Date
variable {a b : Date}

theorem before_iff : a.before b = true ↔ a.year < b.year ∨
    a.year = b.year ∧ (a.month < b.month ∨ a.month = b.month ∧ a.day < b.day) := by
  simp [before]

theorem not_before_of_before (h : a.before b = true) : ¬ b.before a = true := by
  rw [before_iff] at h ⊢
  omega

theorem eq_iff_not_before : a = b ↔ ¬ a.before b = true ∧ ¬ b.before a = true := by
  constructor
  · rintro rfl
    exact ⟨fun h => not_before_of_before h h, fun h => not_before_of_before h h⟩
  · rw [before_iff, before_iff]
    rintro ⟨hab, hba⟩
    obtain ⟨y, m, d, _⟩ := a
    obtain ⟨y', m', d', _⟩ := b
    obtain ⟨rfl, rfl, rfl⟩ : y = y' ∧ m = m' ∧ d = d' := by
      dsimp only at hab hba
      omega
    rfl

end Calendar.Date

namespace Value
variable {v : Value} {field : Option String} {d : Date} {e : Fault}

/-- A value that stands for a day: the date, a moment of it or its text between blanks. -/
inductive IsDay : Value → Date → Prop
  | date (d : Date) : IsDay (.date d) d
  | moment (m : Moment) : IsDay (.moment m) m.date
  | text {s : String} (d : Date) {l r : List Char} (hl : Blanks l) (hr : Blanks r)
      (hs : s.toList = l ++ (d.iso ++ r)) : IsDay (.text s) d

theorem IsDay.asDate (h : v.IsDay d) (field : Option String) : v.asDate field = .ok d := by
  cases h with
  | date => rfl
  | moment => rfl
  | text d hl hr hs =>
    rw [Value.asDate, hs, trim_of_solid hl hr d.iso_ne_nil d.solid_iso, d.read?_iso]

theorem ne_null_of_asDate (h : v.asDate field = .ok d) : v ≠ .null := by
  rintro rfl
  exact unreadable_ne_ok h

theorem asDate_failsBy (field : Option String) (v : Value) :
    FailsBy (v.asDate field) (Misread field v .date) := by
  unfold asDate
  split
  · exact failsBy_ok _
  · exact failsBy_ok _
  · split
    · exact failsBy_ok _
    · exact unreadable_failsBy field _ .date
  · exact unreadable_failsBy field v .date

end Value

theorem Misread.refusal {v : Value} {field : Option String} {e : Fault}
    (h : Misread field v .date e) (hw : v.IsWritable) :
    ∃ shown, e = .refused (.unreadable field v shown .date) := by
  cases h with
  | refused shown => exact ⟨shown, rfl⟩
  | unwritable hl => exact absurd hl hw
  | endless w ht => cases w <;> cases ht

def ErrorRecord.DifferInMessage (e e' : ErrorRecord) : Prop :=
  e' = { e with message := e'.message } ∧ e.message ≠ e'.message

theorem eq_of_append {before text text' ending : String}
    (h : before ++ (text ++ ending) = before ++ (text' ++ ending)) : text = text' := by
  have hl := congrArg String.toList h
  simp only [String.toList_append] at hl
  exact String.toList_inj.1 (List.append_cancel_right (List.append_cancel_left hl))

namespace Focus
variable {f : Focus} {b : Value} (fails : Date → Date → Bool) (suffix text : String)

theorem judgeDay_read {d e : Date} (hv : f.value.asDate f.field = .ok d)
    (hb : b.asDate f.field = .ok e) : f.judgeDay b fails suffix text =
      if fails d e then
        f.report suffix (text ++ String.ofList e.iso) (.date d) [.date d, .date e]
      else .pass := by
  rw [judgeDay, judgePresent_of_ne (Value.ne_null_of_asDate hv), Verdict.unlessNull,
    Value.isNull_of_ne (Value.ne_null_of_asDate hb), hv, hb]
  rfl

theorem judgeDay_decides {d e : Date} (hv : f.value.asDate f.field = .ok d)
    (hb : b.asDate f.field = .ok e) :
    (f.judgeDay b fails suffix text).Decides (¬ fails d e = true) := by
  rw [judgeDay_read fails suffix text hv hb]
  by_cases h : fails d e = true
  · rw [if_pos h]
    exact (reports_report _ _ _ _).decides (not_not.2 h)
  · rw [if_neg h]
    exact Verdict.decides_pass h

theorem judgeDay_error {fault : Fault} (hv : f.value ≠ .null) (hb : b ≠ .null)
    (h : f.value.asDate f.field = .error fault ∨
      ∃ d, f.value.asDate f.field = .ok d ∧ b.asDate f.field = .error fault) :
    f.judgeDay b fails suffix text = .error fault := by
  rw [judgeDay, judgePresent_of_ne hv, Verdict.unlessNull, Value.isNull_of_ne hb]
  rcases h with h | ⟨d, hd, h⟩
  · rw [h]
    rfl
  · rw [hd, h]
    rfl

theorem judgeDay_differ {text' : String} (h : text ≠ text') :
    Related (Option.Rel ErrorRecord.DifferInMessage) (f.judgeDay b fails suffix text)
      (f.judgeDay b fails suffix text') := by
  unfold judgeDay judgePresent Verdict.unlessNull
  split
  · exact .value .none
  split
  · exact .value .none
  refine (Related.same _).bind ?_
  rintro d _ rfl
  refine (Related.same _).bind ?_
  rintro e _ rfl
  split
  · refine .value (.some ⟨rfl, fun hm => h ?_⟩)
    exact eq_of_append (Value.text.inj hm)
  · exact .value .none

end Focus

namespace Day

def rules : List (Value → Day) := [after, before, beforeOrEqual, equalTo]

theorem judge_of_mem {r : Value → Day} (h : r ∈ rules) :
    ∃ fails suffix text, ∀ f b, (r b).judge f = f.judgeDay b fails suffix text := by
  simp only [rules, List.mem_cons, List.not_mem_nil, or_false] at h
  rcases h with rfl | rfl | rfl | rfl <;> exact ⟨_, _, _, fun _ _ => rfl⟩

section
variable {f : Focus} {b : Value} {d e : Date} (hv : f.value.asDate f.field = .ok d)
  (hb : b.asDate f.field = .ok e)
include hv hb

theorem after_decides : ((after b).judge f).Decides (¬ d.before e = true) :=
  Focus.judgeDay_decides _ _ _ hv hb

theorem before_decides : ((before b).judge f).Decides (¬ e.before d = true) :=
  Focus.judgeDay_decides _ _ _ hv hb

theorem equalTo_decides : ((equalTo b).judge f).Decides (d = e) :=
  (Focus.judgeDay_decides _ _ _ hv hb).congr (by simp)

end

theorem before_differ (f : Focus) (b : Value) :
    Related (Option.Rel ErrorRecord.DifferInMessage) ((before b).judge f)
      ((beforeOrEqual b).judge f) :=
  Focus.judgeDay_differ _ _ _ (by decide)

theorem judge_unread {f : Focus} {b : Value} (hv : f.value ≠ .null) (hb : b ≠ .null)
    (h : ¬ ∃ d e, f.value.asDate f.field = .ok d ∧ b.asDate f.field = .ok e) :
    ∃ u fault, (u = f.value ∨ u = b) ∧ u.asDate f.field = .error fault ∧
      ∀ r ∈ rules, (r b).judge f = .error fault := by
  have hfail {fault : Fault} (hf : f.value.asDate f.field = .error fault ∨
      ∃ d, f.value.asDate f.field = .ok d ∧ b.asDate f.field = .error fault) :
      ∀ r ∈ rules, (r b).judge f = .error fault := by
    intro r hr
    obtain ⟨fails, suffix, text, hjudge⟩ := judge_of_mem hr
    exact (hjudge f b).trans (Focus.judgeDay_error fails suffix text hv hb hf)
  cases hread : f.value.asDate f.field with
  | error fault => exact ⟨_, fault, .inl rfl, hread, hfail (.inl hread)⟩
  | ok d =>
    cases hbound : b.asDate f.field with
    | error fault => exact ⟨_, fault, .inr rfl, hbound, hfail (.inr ⟨d, hread, hbound⟩)⟩
    | ok e => exact absurd ⟨d, e, hread, hbound⟩ h

end Day

/-- What stands for a day is read as that day. Values that stand for one day are judged alike
by every rule, against any two bounds that stand for one day: both pass, or both are reported in the
same way, with the two days and nothing of what they were read from. -/
theorem days_seen_alone (checkers : Checkers) :
    (∀ v d, Value.IsDay v d → ∀ field, v.asDate field = .ok d) ∧
    ∀ (f : Focus) (v v' b b' : Value) (d e : Date), v.IsDay d → v'.IsDay d → b.IsDay e →
      b'.IsDay e → ∀ r ∈ Day.rules,
        let judged (v b : Value) := (Rule.day (r b)).judge checkers (f.withValue v)
        judged v b = judged v' b' ∧
        (judged v b = .pass ∨ ∃ code message field, judged v b =
          .violated ⟨code, message, field, .date d, [.date d, .date e]⟩) := by
  refine ⟨fun v d h => h.asDate, ?_⟩
  intro f v v' b b' d e hv hv' hb hb' r hr judged
  obtain ⟨fails, suffix, text, hjudge⟩ := Day.judge_of_mem hr
  have hread {v b : Value} (hv : v.IsDay d) (hb : b.IsDay e) : judged v b =
      if fails d e then
        f.report suffix (text ++ String.ofList e.iso) (.date d) [.date d, .date e]
      else .pass :=
    (hjudge (f.withValue v) b).trans
      (Focus.judgeDay_read fails suffix text (hv.asDate f.field) (hb.asDate f.field))
  refine ⟨(hread hv hb).trans (hread hv' hb').symm, ?_⟩
  rw [hread hv hb]
  by_cases h : fails d e = true
  · rw [if_pos h]
    exact .inr ⟨_, _, _, rfl⟩
  · rw [if_neg h]
    exact .inl rfl

theorem days_seen_alone_leap :
    let checkers : Checkers := fun _ _ => .ok .valid
    let leap : Date := ⟨2024, 2, 29, rfl⟩
    let limit : Date := ⟨2024, 3, 1, rfl⟩
    let f : Focus := { resource := some "loan", field := some "due" }
    let evening : Moment := ⟨leap, 23, 59, 59, 0, some (-43200)⟩
    (Value.text "\t2024-02-29 ").asDate none = .ok leap ∧
    (Rule.day (.after (.date limit))).judge checkers (f.withValue (.text "\t2024-02-29 ")) =
      (Rule.day (.after (.text "2024-03-01"))).judge checkers (f.withValue (.moment evening)) := by
  intro checkers leap limit f evening
  obtain ⟨hread, hjudged⟩ := days_seen_alone checkers
  have hv : (Value.text "\t2024-02-29 ").IsDay leap :=
    .text leap (l := ['\t']) (r := [' ']) (by decide) (by decide) (by decide)
  have hb : (Value.text "2024-03-01").IsDay limit :=
    .text limit blanks_nil blanks_nil (by decide)
  refine ⟨hread _ _ hv none, ?_⟩
  exact (hjudged f _ _ _ _ leap limit hv (.moment evening) (.date limit) hb Day.after
    (by simp [Day.rules])).1

/-- Values that are read as days are judged by the order of these. A rule for equal days passes
where the rules for later and for earlier days both do, and of these two one passes at least; turned
around, one is the other. Whatever is judged, the two rules for earlier days differ in a message
only. Where one of two values that are there is no date, all rules fail by the same fault: they
refuse the first such value, unless it holds an integer that is too long for the refusal to name. -/
theorem days_by_order (checkers : Checkers) (f : Focus) :
    let judged (r : Value → Day) (v b : Value) : Verdict :=
      (Rule.day (r b)).judge checkers (f.withValue v)
    (∀ v b d e, v.asDate f.field = .ok d → b.asDate f.field = .ok e →
      (judged .after v b).Decides (¬ d.before e = true) ∧
      (judged .before v b).Decides (¬ e.before d = true) ∧
      (judged .equalTo v b = .pass ↔ judged .after v b = .pass ∧ judged .before v b = .pass) ∧
      ¬ ((judged .after v b).Reports ∧ (judged .before v b).Reports) ∧
      (judged .after v b = .pass ↔ judged .before b v = .pass)) ∧
    (∀ v b, Related (Option.Rel ErrorRecord.DifferInMessage) (judged .before v b)
      (judged .beforeOrEqual v b)) ∧
    ∀ v b, v ≠ .null → b ≠ .null →
      (¬ ∃ d e, v.asDate f.field = .ok d ∧ b.asDate f.field = .ok e) →
      ∃ u fault, (u = v ∨ u = b) ∧ u.asDate f.field = .error fault ∧
        (∀ r ∈ Day.rules, judged r v b = .error fault) ∧ Misread f.field u .date fault ∧
        (u.IsWritable → ∃ shown, fault = .refused (.unreadable f.field u shown .date)) := by
  intro judged
  refine ⟨fun v b d e hv hb => ?_, fun v b => Day.before_differ _ b, fun v b hv hb h => ?_⟩
  · have hafter : (judged .after v b).Decides _ := Day.after_decides (f := f.withValue v) hv hb
    have hbefore : (judged .before v b).Decides _ := Day.before_decides (f := f.withValue v) hv hb
    have hequal : (judged .equalTo v b).Decides _ := Day.equalTo_decides (f := f.withValue v) hv hb
    have hturned : (judged .before b v).Decides _ := Day.before_decides (f := f.withValue b) hb hv
    refine ⟨hafter, hbefore, ?_, ?_, hafter.pass_iff.trans hturned.pass_iff.symm⟩
    · rw [hequal.pass_iff, hafter.pass_iff, hbefore.pass_iff]
      exact Date.eq_iff_not_before
    · rw [hafter.reports_iff, hbefore.reports_iff, not_not, not_not]
      exact fun h => Date.not_before_of_before h.1 h.2
  · obtain ⟨u, fault, hu, hread, hrules⟩ := Day.judge_unread (f := f.withValue v) hv hb h
    have hmis := u.asDate_failsBy f.field fault hread
    exact ⟨u, fault, hu, hread, hrules, hmis, hmis.refusal⟩

theorem days_by_order_leap :
    let checkers : Checkers := fun _ _ => .ok .valid
    let f : Focus := { resource := some "loan", field := some "due" }
    let judged (r : Value → Day) (v b : Value) : Verdict :=
      (Rule.day (r b)).judge checkers (f.withValue v)
    let leap : Date := ⟨2024, 2, 29, rfl⟩
    let limit : Date := ⟨2024, 3, 1, rfl⟩
    (judged .after (.date leap) (.date limit)).Reports ∧
    judged .before (.date leap) (.date limit) = .pass ∧
    judged .equalTo (.date leap) (.date limit) ≠ .pass ∧
    ∃ shown, ∀ r ∈ Day.rules, judged r (.text "soon") (.date limit) =
      .error (.refused (.unreadable f.field (.text "soon") shown .date)) := by
  intro checkers f judged leap limit
  obtain ⟨hread, -, hunread⟩ := days_by_order checkers f
  obtain ⟨hafter, hbefore, hequal, -⟩ := hread (.date leap) (.date limit) leap limit rfl rfl
  have hreports : (judged .after (.date leap) (.date limit)).Reports :=
    hafter.reports (by decide)
  refine ⟨hreports, hbefore.passes (by decide), fun h => ?_, ?_⟩
  · exact hafter.reports_iff.1 hreports (hafter.pass_iff.1 (hequal.1 h).1)
  · obtain ⟨u, fault, hu, hfault, hrules, -, hrefused⟩ :=
      hunread (.text "soon") (.date limit) nofun nofun (by
        rintro ⟨d, e, h, -⟩
        cases h)
    rcases hu with rfl | rfl
    · obtain ⟨shown, rfl⟩ := hrefused (by rintro ⟨n, hn, -⟩; cases hn)
      exact ⟨shown, hrules⟩
    · cases hfault

/-- An integer that is too long to be written is no date, and no rule refuses it as one. -/
theorem overlong_day_unrefused :
    let checkers : Checkers := fun _ _ => .ok .valid
    let v : Value := .int (tenTo digitLimit : Nat)
    let f : Focus := { resource := some "loan", field := some "due", value := v }
    let limit : Value := .date ⟨2024, 3, 1, rfl⟩
    v ≠ .null ∧ (¬ ∃ d, v.asDate f.field = .ok d) ∧
    ∀ r ∈ Day.rules, (Rule.day (r limit)).judge checkers f = .error .wrongValue ∧
      ∀ refusal, (Rule.day (r limit)).judge checkers f ≠ .error (.refused refusal) := by
  intro checkers v f limit
  have hlong : HasLong v.integers := ⟨_, List.mem_singleton_self _, isLong_tenTo⟩
  have hread : v.asDate f.field = .error .wrongValue := by
    change Value.unreadable f.field v .date = _
    rw [Value.unreadable_of_hasLong hlong]
  have hno : ¬ ∃ d, v.asDate f.field = .ok d := by
    rintro ⟨d, hd⟩
    cases hread.symm.trans hd
  refine ⟨nofun, hno, fun r hr => ?_⟩
  obtain ⟨fails, suffix, text, hjudge⟩ := Day.judge_of_mem hr
  have hfault : (r limit).judge f = .error .wrongValue :=
    (hjudge f limit).trans (Focus.judgeDay_error fails suffix text nofun nofun (.inl hread))
  refine ⟨hfault, fun refusal h => ?_⟩
  cases hfault.symm.trans h

end Scrutiny
