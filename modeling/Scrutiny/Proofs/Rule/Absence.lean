import Scrutiny.Proofs.Session.Turn

/-!
# Absent values

Most rules look at the focused value, and nearly all of these have nothing against its absence:
they look for a value before they look at their arguments, so that no argument can make them
fail. Nine rules demand a value, and the wish to overlook absence silences these as well. Two of the
nine report the place in a list, and fail where its index is too long to be written.
-/

set_option autoImplicit false

namespace Scrutiny

/-- The rules that demand a value, each in its own way. -/
inductive Demand where
  | present
  | nonBlank
  | nonEmptyArray
  | trueOrFalse
  | blankWhen
  | blankWhenIs
  | oneOf
  | oneOfTexts
  | oneOfNames
  deriving DecidableEq

def Demand.namesPlace : Demand → Bool
  | .present => true
  | .nonBlank => true
  | _ => false

namespace Rule

def demand? : Rule → Option Demand
  | .required .present => some .present
  | .required .nonBlank => some .nonBlank
  | .required .nonEmptyArray => some .nonEmptyArray
  | .required (.trueOrFalse _) => some .trueOrFalse
  | .linked (.blankWhen ..) => some .blankWhen
  | .linked (.blankWhenIs ..) => some .blankWhenIs
  | .choice (.oneOf _) => some .oneOf
  | .choice (.oneOfTexts _) => some .oneOfTexts
  | .choice (.oneOfNames _) => some .oneOfNames
  | _ => none

/-- Whether a rule has its say on the focused value. The others judge their arguments alone, or
report whatever is in focus. Tokens in a list are joined before anything else is looked at. -/
def readsFocus : Rule → Bool
  | .required (.whenOtherIs ..) => false
  | .linked (.anyGiven _) => false
  | .amount (.orderedAmounts ..) => false
  | .amount (.orderedNumbers ..) => false
  | .wording (.flag _) => false
  | .wording (.listedToken ..) => false
  | .schedule (.recurrence _) => false
  | .outright _ => false
  | _ => true

end Rule

namespace Inquiry

def demand? : Inquiry → Option Demand
  | .rule r => r.demand?
  | _ => none

/-- The tokens of the settings are always texts, so that joining them cannot fail. -/
def readsFocus : Inquiry → Bool
  | .rule r => r.readsFocus
  | _ => true

end Inquiry

section
variable {f : Focus}

theorem Focus.skips_eq (h : f.value = .null) : f.skips = f.skipAbsent := by
  simp [Focus.skips, h, Value.isNull]

theorem Focus.judgePresent_absent (h : f.value = .null) (judge : Value → Verdict) :
    f.judgePresent judge = Verdict.pass := by
  simp [Focus.judgePresent, h, Value.isNull]

@[simp] theorem Verdict.unlessNull_pass (bound : Value) :
    Verdict.unlessNull bound Verdict.pass = Verdict.pass := by
  simp [Verdict.unlessNull]

theorem Whole.judge_absent (h : f.value = .null) (r : Whole) : r.judge f = Verdict.pass := by
  cases r with
  | zeroOrGreater w => cases w <;> simp [Whole.judge, Focus.judgeWhole, f.judgePresent_absent h]
  | _ => simp [Whole.judge, Focus.judgeWhole, f.judgePresent_absent h]

theorem Amount.judge_absent (h : f.value = .null) {r : Amount}
    (hr : (Rule.amount r).readsFocus = true) : r.judge f = Verdict.pass := by
  cases r with
  | orderedAmounts => cases hr
  | orderedNumbers => cases hr
  | _ => simp [Amount.judge, Focus.judgeAmount, f.judgePresent_absent h]

theorem Day.judge_absent (h : f.value = .null) (r : Day) : r.judge f = Verdict.pass := by
  cases r <;> simp [Day.judge, Focus.judgeDay, f.judgePresent_absent h]

theorem Wording.judge_absent (h : f.value = .null) {r : Wording}
    (hr : (Rule.wording r).readsFocus = true) : r.judge f = Verdict.pass := by
  cases r with
  | flag => cases hr
  | listedToken => cases hr
  | token => simp [Wording.judge, Wording.judgeToken, f.judgePresent_absent h]
  | listLengthAtMost => simp [Wording.judge, h, Value.listItems?]
  | _ => simp [Wording.judge, f.judgePresent_absent h]

theorem Wording.textsOf_list (ts : List String) :
    Wording.textsOf (.list (ts.map .text)) = .ok (ts.map String.toList) := by
  simp only [Wording.textsOf, Value.members?]
  induction ts with
  | nil => rfl
  | cons t ts ih => simp [ih, Wording.textOf, List.mapM_cons, bind, Except.bind, pure, Except.pure]

theorem Settings.booleanRule_absent (h : f.value = .null) (settings : Settings)
    (checkers : Checkers) : settings.booleanRule.judge checkers f = Verdict.pass := by
  simp [Settings.booleanRule, Rule.judge, Wording.judge, Wording.textsOf_list, Wording.judgeToken,
    f.judgePresent_absent h, bind, Except.bind]

theorem Linked.judge_absent (h : f.value = .null) {r : Linked}
    (hr : (Rule.linked r).readsFocus = true)
    (hd : f.skipAbsent = true ∨ (Rule.linked r).demand? = none) : r.judge f = Verdict.pass := by
  cases r with
  | anyGiven => cases hr
  | blankWhen name v =>
    rcases hd with hs | hd
    · simp [Linked.judge, f.skips_eq h, hs]
    · cases hd
  | blankWhenIs name v =>
    rcases hd with hs | hd
    · simp [Linked.judge, f.skips_eq h, hs]
    · cases hd
  | _ => simp [Linked.judge, h, Value.isNull]

theorem Required.judge_absent (h : f.value = .null) {r : Required}
    (hr : (Rule.required r).readsFocus = true)
    (hd : f.skipAbsent = true ∨ (Rule.required r).demand? = none) :
    r.judge f = Verdict.pass := by
  cases r with
  | whenOtherIs => cases hr
  | nonEmptyCollection => simp [Required.judge, f.judgePresent_absent h]
  | _ =>
    rcases hd with hs | hd
    · simp [Required.judge, f.skips_eq h, hs]
    · cases hd

theorem Choice.judge_absent (h : f.value = .null) {r : Choice}
    (hd : f.skipAbsent = true ∨ (Rule.choice r).demand? = none) : r.judge f = Verdict.pass := by
  cases r with
  | noneOf => simp [Choice.judge, f.judgePresent_absent h]
  | _ =>
    rcases hd with hs | hd
    · simp [Choice.judge, Choice.judgeTexts, f.skips_eq h, hs]
    · cases hd

theorem Schedule.question_absent (h : f.value = .null) :
    Schedule.cron.question f = .ok none := by
  simp [Schedule.question, h, Value.isNull, pure, Except.pure]

theorem Rule.judge_absent (h : f.value = .null) {r : Rule} (hr : r.readsFocus = true)
    (hd : f.skipAbsent = true ∨ r.demand? = none) (checkers : Checkers) :
    r.judge checkers f = Verdict.pass ∧ r.question f = .ok none := by
  cases r with
  | required r => exact ⟨r.judge_absent h hr hd, rfl⟩
  | linked r => exact ⟨r.judge_absent h hr hd, rfl⟩
  | whole r => exact ⟨r.judge_absent h, rfl⟩
  | amount r => exact ⟨r.judge_absent h hr, rfl⟩
  | choice r => exact ⟨r.judge_absent h hd, rfl⟩
  | wording r => exact ⟨r.judge_absent h hr, rfl⟩
  | day r => exact ⟨r.judge_absent h, rfl⟩
  | outright r => cases hr
  | schedule r =>
    cases r with
    | recurrence rule => cases hr
    | cron =>
      have hq := Schedule.question_absent h
      simp [Rule.judge, Rule.question, Schedule.judge, hq, bind, Except.bind, pure, Except.pure]

theorem Inquiry.judge_absent (h : f.value = .null) {q : Inquiry} (hq : q.readsFocus = true)
    (hd : f.skipAbsent = true ∨ q.demand? = none) (settings : Settings) (checkers : Checkers) :
    (q.completed settings).judge checkers f = Verdict.pass ∧
      (q.completed settings).question f = .ok none := by
  cases q with
  | rule r => exact Rule.judge_absent h hq hd checkers
  | token tokens =>
    exact Rule.judge_absent (r := settings.tokenRule tokens) h rfl (.inr rfl) checkers
  | boolean => exact ⟨settings.booleanRule_absent h checkers, rfl⟩

theorem Focus.mandatory_of_placed (h : f.reportedField?.isSome = true) :
    ∃ e, f.mandatory = Verdict.violated e := by
  obtain ⟨name, hn⟩ := Option.isSome_iff_exists.1 h
  rw [mandatory, hn]
  exact ⟨_, rfl⟩

theorem Focus.mandatory_of_unplaced (h : f.reportedField? = none) :
    f.mandatory = .error .wrongValue := by
  rw [mandatory, h]

theorem Rule.eq_of_namesPlace {r : Rule} {d : Demand} (hd : r.demand? = some d)
    (hp : d.namesPlace = true) : r = .required .present ∨ r = .required .nonBlank := by
  cases r with
  | required r =>
    cases r with
    | present => exact .inl rfl
    | nonBlank => exact .inr rfl
    | _ => cases hd <;> cases hp
  | linked r => cases r <;> cases hd <;> cases hp
  | choice r => cases r <;> cases hd <;> cases hp
  | _ => cases hd

theorem Rule.judge_naming (h : f.value = .null) (hs : f.skipAbsent = false) {r : Rule} {d : Demand}
    (hd : r.demand? = some d) (hp : d.namesPlace = true) (checkers : Checkers) :
    r.judge checkers f = f.mandatory := by
  have hskips : f.skips = false := (f.skips_eq h).trans hs
  rcases eq_of_namesPlace hd hp with rfl | rfl
  · simp [judge, Required.judge, h, hs, Value.isNull]
  · have hblank : f.value.isBlank = .ok true := by
      rw [h]
      rfl
    simp [judge, Required.judge, hskips, hblank, bind, Except.bind]

theorem Rule.judge_demanding (h : f.value = .null) (hs : f.skipAbsent = false) (d : Demand)
    (hp : d.namesPlace = true → f.reportedField?.isSome = true) :
    ∃ r : Rule, r.readsFocus = true ∧ r.demand? = some d ∧
      ∃ e, ∀ checkers, r.judge checkers f = Verdict.violated e := by
  have hnaming (r : Rule) (hr : r.demand? = some d) (hd : d.namesPlace = true) :
      ∃ e, ∀ checkers, r.judge checkers f = Verdict.violated e := by
    obtain ⟨e, he⟩ := Focus.mandatory_of_placed (hp hd)
    exact ⟨e, fun checkers => (judge_naming h hs hr hd checkers).trans he⟩
  obtain ⟨resource, field, position, v, skip⟩ := f
  obtain rfl : v = .null := h
  obtain rfl : skip = false := hs
  cases d with
  | present => exact ⟨.required .present, rfl, rfl, hnaming _ rfl rfl⟩
  | nonBlank => exact ⟨.required .nonBlank, rfl, rfl, hnaming _ rfl rfl⟩
  | nonEmptyArray => exact ⟨.required .nonEmptyArray, rfl, rfl, _, fun _ => rfl⟩
  | trueOrFalse => exact ⟨.required (.trueOrFalse (.bool false)), rfl, rfl, _, fun _ => rfl⟩
  | blankWhen => exact ⟨.linked (.blankWhen "" .null), rfl, rfl, _, fun _ => rfl⟩
  | blankWhenIs => exact ⟨.linked (.blankWhenIs "" .null), rfl, rfl, _, fun _ => rfl⟩
  | oneOf => exact ⟨.choice (.oneOf []), rfl, rfl, _, fun _ => rfl⟩
  | oneOfTexts => exact ⟨.choice (.oneOfTexts []), rfl, rfl, _, fun _ => rfl⟩
  | oneOfNames => exact ⟨.choice (.oneOfNames ⟨[]⟩), rfl, rfl, _, fun _ => rfl⟩

theorem Rule.question_of_demand {r : Rule} {d : Demand} (hd : r.demand? = some d) :
    r.question f = .ok none := by
  cases r with
  | schedule => cases hd
  | _ => rfl

end

namespace Session

/-- A context lets something pass without a trace: nothing is recorded, noted, asked or refused,
whatever the checkers may be. -/
structure Passes (s : Session) (n : Nat) (c : Context) (q : Inquiry) : Prop where
  step : s.step (.judge n q) = s.still
  unasked : (q.completed c.settings).question c.focus = .ok none
  passed : ∀ checkers, (q.completed c.settings).judge checkers c.focus = .ok none

theorem step_unasked {s : Session} {n : Nat} {c : Context} (h : s.context? n = some c)
    {q : Inquiry} (hq : (q.completed c.settings).question c.focus = .ok none) :
    s.step (.judge n q) =
      { session := s.append c.ledger (s.verdict c q).records
        notes := (s.verdict c q).records.map .recorded
        fault := (s.verdict c q).fault? } := by
  have hask : c.question? q = none := by
    rw [Context.question?, hq]
    rfl
  rw [step_judge h, judge_eq, hask]
  rfl

theorem passes_absent {s : Session} {n : Nat} {c : Context} (h : s.context? n = some c)
    (hv : c.focus.value = .null) {q : Inquiry} (hq : q.readsFocus = true)
    (hd : c.focus.skipAbsent = true ∨ q.demand? = none) : s.Passes n c q := by
  have hj := Inquiry.judge_absent hv hq hd c.settings
  have hu := (hj (s.checkers c)).2
  refine ⟨?_, hu, fun checkers => (hj checkers).1⟩
  rw [step_unasked h hu, verdict, (hj (s.checkers c)).1]
  simp [Verdict.pass, Verdict.records, Verdict.fault?, append_nil, still]

theorem step_violated {s : Session} {n : Nat} {c : Context} (h : s.context? n = some c)
    {q : Inquiry} (hq : (q.completed c.settings).question c.focus = .ok none) {e : ErrorRecord}
    (hj : (q.completed c.settings).judge (s.checkers c) c.focus = Verdict.violated e) :
    s.step (.judge n q) =
      { session := s.append c.ledger [e], notes := [.recorded e] } := by
  rw [step_unasked h hq, verdict, hj]
  rfl

theorem step_refusing {s : Session} {n : Nat} {c : Context} (h : s.context? n = some c)
    {q : Inquiry} (hq : (q.completed c.settings).question c.focus = .ok none) {f : Fault}
    (hj : (q.completed c.settings).judge (s.checkers c) c.focus = .error f) :
    s.step (.judge n q) = s.refusing f := by
  rw [step_unasked h hq, verdict, hj]
  simp [Verdict.records, Verdict.fault?, append_nil, refusing]

/-- Where a value is absent, and that is overlooked, all that looks at the focus passes, whatever
its arguments are. Where it is not overlooked the same goes for all but the rules that demand a
value, and each of these can make a violation of it; the two that name the place in a list do so
where the place can be written, and fail where it cannot. -/
theorem absent_passes (s : Session) (n : Nat) (c : Context) (h : s.context? n = some c)
    (hv : c.focus.value = .null) :
    (∀ q : Inquiry, q.readsFocus = true → c.focus.skipAbsent = true ∨ q.demand? = none →
      s.Passes n c q) ∧
    (c.focus.skipAbsent = false →
      (∀ d : Demand, (d.namesPlace = true → c.focus.reportedField?.isSome = true) →
        ∃ q : Inquiry, q.readsFocus = true ∧ q.demand? = some d ∧ ∃ e, s.step (.judge n q) =
          { session := s.append c.ledger [e], notes := [.recorded e] }) ∧
      (c.focus.reportedField? = none → ∀ (q : Inquiry) (d : Demand), q.demand? = some d →
        d.namesPlace = true →
        s.step (.judge n q) = s.refusing .wrongValue)) := by
  refine ⟨fun q hq hd => passes_absent h hv hq hd, fun hs => ⟨fun d hp => ?_, fun hu q d hd hp => ?_⟩⟩
  · obtain ⟨r, hr, hd, e, he⟩ := Rule.judge_demanding hv hs d hp
    have hq := Rule.question_of_demand (f := c.focus) hd
    exact ⟨.rule r, hr, hd, e, step_violated (q := .rule r) h hq (he _)⟩
  · cases q with
    | rule r =>
      have hq := Rule.question_of_demand (f := c.focus) hd
      have hj := Rule.judge_naming hv hs hd hp (s.checkers c)
      exact step_refusing (q := .rule r) h hq (hj.trans (Focus.mandatory_of_unplaced hu))
    | token tokens => cases hd
    | boolean => cases hd

theorem absent_passes_multiple_of_zero :
    let s := run (initial .lenient []) [.start none {} .own none none, .change 0 .skipAbsent]
    ∃ c, s.context? 0 = some c ∧ s.Passes 0 c (.rule (.whole (.multipleOf (.int 0)))) :=
  ⟨_, rfl, (absent_passes _ _ _ rfl rfl).1 _ rfl (.inl rfl)⟩

end Session
end Scrutiny
