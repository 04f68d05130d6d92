import Scrutiny.Rule

/-!
# What violations are called

A violation is called by its code and by the parameter it is about. Programs look at these two, so
that they must not tell anything of the value that was refused: they are made from the place in
focus, from what the caller has handed to the rule, and from nothing else. Only missing values
name a place in a list; to all other rules the resource and the parameter are the whole place.
-/

set_option autoImplicit false

namespace Scrutiny

structure Label where
  code : String
  field : String

def Verdict.Bears (v : Verdict) (l : Label) : Prop :=
  ∀ e, v = .ok (some e) → e.code = .text l.code ∧ e.field = .text l.field

namespace Verdict
variable {l : Label}

theorem bears_pass : pass.Bears l := by
  intro e h
  cases h

theorem bears_error (x : Fault) : Bears (.error x) l := by
  intro e h
  cases h

theorem bears_violated (code : String) (message : Value) (field : Option String)
    (rejected : Value) (args : List Value) :
    (violated (violation code message field rejected args)).Bears ⟨code, field.getD ""⟩ := by
  intro e h
  cases h
  exact ⟨rfl, rfl⟩

theorem bears_ite {c : Prop} [Decidable c] {v w : Verdict} (hv : v.Bears l) (hw : w.Bears l) :
    (if c then v else w).Bears l := by
  split
  · exact hv
  · exact hw

theorem bears_bind {α : Type} {x : Except Fault α} {k : α → Verdict}
    (h : ∀ a, x = .ok a → (k a).Bears l) : Bears (x >>= k) l := by
  cases x with
  | error f => exact bears_error f
  | ok a => exact h a rfl

theorem bears_unlessNull (bound : Value) {v : Verdict} (h : v.Bears l) :
    (unlessNull bound v).Bears l :=
  bears_ite bears_pass h

end Verdict
open Verdict

def Focus.label (f : Focus) (suffix : String) : Label := ⟨f.fieldCode suffix, f.field.getD ""⟩

namespace Focus
variable (f : Focus)

theorem report_bears (suffix text : String) (rejected : Value) (args : List Value) :
    (f.report suffix text rejected args).Bears (f.label suffix) :=
  bears_violated _ _ _ _ _

theorem judgePresent_bears {l : Label} {judge : Value → Verdict} (h : ∀ v, (judge v).Bears l) :
    (f.judgePresent judge).Bears l :=
  bears_ite bears_pass (h f.value)

theorem judgeWhole_bears (w : Width) (fails : Value → Except Fault Bool) (suffix : String)
    (text : Except Fault String) (bounds : List Value) :
    (f.judgeWhole w fails suffix text bounds).Bears (f.label suffix) := by
  refine f.judgePresent_bears fun v => bears_bind fun n _ => bears_bind fun failed _ => ?_
  refine bears_ite (bears_bind fun t _ => ?_) bears_pass
  exact f.report_bears suffix t v (.int n :: bounds)

theorem judgeAmount_bears (fails : Decimal → Except Fault Bool) {suffix : Except Fault String}
    (text : Decimal → Except Fault String) (bounds : List Value) {s : String}
    (hs : ∀ t, suffix = .ok t → t = s) :
    (f.judgeAmount fails suffix text bounds).Bears (f.label s) := by
  refine f.judgePresent_bears fun v => bears_bind fun d _ => bears_bind fun failed _ => ?_
  refine bears_ite (bears_bind fun t ht => bears_bind fun m _ => ?_) bears_pass
  rw [← hs t ht]
  exact f.report_bears t m v (.decimal d :: bounds)

theorem judgeDay_bears (bound : Value) (fails : Calendar.Date → Calendar.Date → Bool)
    (suffix text : String) : (f.judgeDay bound fails suffix text).Bears (f.label suffix) := by
  refine f.judgePresent_bears fun v => bears_unlessNull bound ?_
  refine bears_bind fun day _ => bears_bind fun limit _ => bears_ite ?_ bears_pass
  exact f.report_bears _ _ _ _

theorem reportChoice_bears (suffix text : String) (values : List Value) :
    (f.reportChoice suffix text values).Bears (f.label suffix) :=
  bears_bind fun _ _ => f.report_bears _ _ _ _

theorem judgeToken_bears (t : List Char) (separator : Value) :
    (Wording.judgeToken f t separator).Bears (f.label "value.should.true.or.false") := by
  refine f.judgePresent_bears fun v => bears_bind fun tokens _ => bears_bind fun w _ => ?_
  exact bears_ite bears_pass (f.report_bears _ _ _ _)

theorem reportLinked_bears (name suffix text : String) (linked : Value) :
    (f.reportLinked name suffix text linked).Bears ⟨f.linkedCode name suffix, name⟩ :=
  bears_violated _ _ (some name) _ _

end Focus

/-- A way of judging whose reports are called by the resource and the parameter alone. -/
def Steady (judge : Focus → Verdict) : Prop :=
  ∃ label : Option String → Option String → Label,
    ∀ f, (judge f).Bears (label f.resource f.field)

theorem steady_of_suffix {judge : Focus → Verdict} (suffix : String)
    (h : ∀ f, (judge f).Bears (f.label suffix)) : Steady judge :=
  ⟨fun resource field => Focus.label { resource, field } suffix, h⟩

/-- What is worked out without the focus is one thing for all, as far as it can be worked out. -/
theorem exists_result {α : Type} [Nonempty α] (x : Except Fault α) :
    ∃ a, ∀ b, x = .ok b → b = a := by
  cases x with
  | error f =>
    obtain ⟨a⟩ := ‹Nonempty α›
    exact ⟨a, fun b h => nomatch h⟩
  | ok a => exact ⟨a, fun b h => (Except.ok.inj h).symm⟩

theorem steady_unlessNull (bound : Value) {judge : Focus → Verdict} (h : Steady judge) :
    Steady fun f => unlessNull bound (judge f) := by
  obtain ⟨label, hl⟩ := h
  exact ⟨label, fun f => bears_unlessNull bound (hl f)⟩

theorem steady_judgeWhole (w : Width) (fails : Value → Except Fault Bool) (suffix : String)
    (text : Except Fault String) (bounds : List Value) :
    Steady fun f => f.judgeWhole w fails suffix text bounds :=
  steady_of_suffix suffix fun f => f.judgeWhole_bears w fails suffix text bounds

theorem steady_judgeAmount (fails : Decimal → Except Fault Bool) (suffix : Except Fault String)
    (text : Decimal → Except Fault String) (bounds : List Value) :
    Steady fun f => f.judgeAmount fails suffix text bounds := by
  obtain ⟨s, hs⟩ := exists_result suffix
  exact steady_of_suffix s fun f => f.judgeAmount_bears fails text bounds hs

theorem Whole.steady (r : Whole) : Steady fun f => r.judge f := by
  cases r with
  | zeroOrGreater w =>
    cases w with
    | short =>
      simp only [judge]
      exact steady_judgeWhole ..
    | long =>
      simp only [judge]
      exact steady_judgeWhole ..
  | greaterThanAt name b index =>
    obtain ⟨place, hplace⟩ := exists_result index.plainText
    refine steady_of_suffix ("not.greater.than.specified." ++ name ++ ".at Index." ++ place)
      fun f => ?_
    rw [judge]
    refine f.judgePresent_bears fun v => bears_bind fun n _ => bears_bind fun failed _ => ?_
    refine bears_ite (bears_bind fun t ht => bears_bind fun m _ => ?_) bears_pass
    rw [← hplace t ht]
    exact f.report_bears _ _ _ _
  | multipleOf b =>
    refine steady_of_suffix "not.in.multiples.of.specified.number" fun f => ?_
    rw [judge]
    refine f.judgePresent_bears fun v => bears_bind fun zero _ => bears_ite (bears_error _) ?_
    exact f.judgeWhole_bears _ _ _ _ _
  | notBelow b =>
    simp only [judge]
    exact steady_unlessNull b (steady_judgeWhole ..)
  | notAbove b =>
    simp only [judge]
    exact steady_unlessNull b (steady_judgeWhole ..)
  | _ =>
    simp only [judge]
    exact steady_judgeWhole ..

theorem Amount.unlessOrdered_bears (low high : Value) {v : Verdict} {l : Label} (h : v.Bears l) :
    (unlessOrdered low high v).Bears l := by
  refine bears_ite bears_pass (bears_bind fun ordered _ => ?_)
  exact bears_ite bears_pass h

theorem Amount.steady (r : Amount) : Steady fun f => r.judge f := by
  cases r with
  | notBelow b =>
    simp only [judge]
    exact steady_unlessNull b (steady_judgeAmount ..)
  | notAbove b =>
    simp only [judge]
    exact steady_unlessNull b (steady_judgeAmount ..)
  | between low high =>
    simp only [judge]
    exact steady_unlessNull low (steady_unlessNull high (steady_judgeAmount ..))
  | orderedAmounts low high =>
    refine steady_of_suffix "is.not.within.expected.range" fun f => ?_
    refine unlessOrdered_bears low high (bears_bind fun a _ => bears_bind fun b _ => ?_)
    exact f.report_bears _ _ _ _
  | orderedNumbers low high =>
    refine steady_of_suffix "is.not.within.expected.range" fun f => ?_
    refine unlessOrdered_bears low high (bears_bind fun a _ => bears_bind fun b _ => ?_)
    exact bears_violated _ _ _ _ _
  | _ =>
    simp only [judge]
    exact steady_judgeAmount ..

theorem Day.steady (r : Day) : Steady fun f => r.judge f := by
  cases r <;> exact steady_of_suffix _ fun f => f.judgeDay_bears _ _ _ _

theorem Choice.judgeTexts_bears (f : Focus) (values : List Value) :
    (judgeTexts f values).Bears (f.label "is.not.one.of.expected.enumerations") := by
  refine bears_ite bears_pass (bears_bind fun allowed _ => bears_ite ?_ ?_)
  · exact f.reportChoice_bears _ _ _
  · exact bears_bind fun t _ => bears_ite bears_pass (f.reportChoice_bears _ _ _)

theorem Choice.steady (r : Choice) : Steady fun f => r.judge f := by
  cases r with
  | oneOf values =>
    apply steady_of_suffix
    intro f
    refine bears_ite bears_pass (bears_ite (f.reportChoice_bears _ _ _) ?_)
    exact bears_bind fun found _ => bears_ite bears_pass (f.reportChoice_bears _ _ _)
  | oneOfTexts values => exact steady_of_suffix _ fun f => judgeTexts_bears f values
  | oneOfNames e => exact steady_of_suffix _ fun f => judgeTexts_bears f _
  | noneOf values =>
    apply steady_of_suffix
    intro f
    rw [judge]
    refine f.judgePresent_bears fun v => bears_bind fun found _ => bears_ite ?_ bears_pass
    exact f.reportChoice_bears _ _ _

theorem Wording.steady (r : Wording) : Steady fun f => r.judge f := by
  cases r with
  | flag v =>
    apply steady_of_suffix
    intro f
    refine bears_ite bears_pass (bears_bind fun t _ => bears_ite bears_pass ?_)
    exact f.report_bears _ _ _ _
  | token tokens separator => exact steady_of_suffix _ fun f => f.judgeToken_bears _ _
  | listedToken separator tokens =>
    exact steady_of_suffix _ fun f => bears_bind fun ts _ => f.judgeToken_bears _ _
  | matching expression message =>
    apply steady_of_suffix
    intro f
    rw [judge]
    refine f.judgePresent_bears fun v => bears_bind fun t _ => bears_bind fun p _ => ?_
    exact bears_ite bears_pass (bears_violated _ _ _ _ _)
  | phoneNumber =>
    apply steady_of_suffix
    intro f
    rw [judge]
    refine f.judgePresent_bears fun v => bears_bind fun t _ => bears_ite bears_pass ?_
    exact f.report_bears _ _ _ _
  | lengthAtMost limit =>
    apply steady_of_suffix
    intro f
    rw [judge]
    refine f.judgePresent_bears fun v => bears_bind fun t _ => bears_bind fun fits _ => ?_
    exact bears_ite bears_pass (bears_bind fun m _ => f.report_bears _ _ _ _)
  | listLengthAtMost limit =>
    apply steady_of_suffix
    intro f
    rw [judge]
    split
    · exact bears_pass
    · refine bears_bind fun fits _ => bears_ite bears_pass ?_
      exact bears_bind fun m _ => f.report_bears _ _ _ _

theorem steady_of_linked {judge : Focus → Verdict} (name : String)
    (suffix : Option String → String)
    (h : ∀ f, (judge f).Bears ⟨f.linkedCode name (suffix f.field), name⟩) : Steady judge :=
  ⟨fun resource field => ⟨Focus.linkedCode { resource } name (suffix field), name⟩, h⟩

theorem Linked.steady (r : Linked) : Steady fun f => r.judge f := by
  cases r with
  | nonBlankToo name v =>
    refine steady_of_linked name
      (fun field => "cannot.be.empty.when." ++ nameText field ++ ".is.populated") fun f => ?_
    refine bears_ite bears_pass (bears_bind fun blank _ => bears_ite ?_ bears_pass)
    exact f.reportLinked_bears _ _ _ _
  | equalTo name v =>
    refine steady_of_linked name (fun field => "not.equal.to." ++ nameText field) fun f => ?_
    refine bears_ite bears_pass (bears_bind fun same _ => bears_ite bears_pass ?_)
    exact f.reportLinked_bears _ _ _ _
  | differentFrom name v =>
    refine steady_of_linked name (fun field => "same.as." ++ nameText field) fun f => ?_
    refine bears_ite bears_pass (bears_bind fun same _ => bears_ite ?_ bears_pass)
    exact f.reportLinked_bears _ _ _ _
  | blankWhen name v =>
    apply steady_of_suffix
    intro f
    refine bears_ite bears_pass (bears_bind fun blank _ => bears_ite bears_pass ?_)
    exact f.report_bears _ _ _ _
  | blankWhenIs name v =>
    obtain ⟨t, ht⟩ := exists_result v.wordingText
    refine steady_of_suffix ("cannot.also.be.provided.when." ++ name ++ ".is." ++ t) fun f => ?_
    refine bears_ite bears_pass (bears_bind fun blank _ => bears_ite bears_pass ?_)
    refine bears_bind fun u hu => ?_
    rw [← ht u hu]
    exact f.report_bears _ _ _ _
  | anyGiven values =>
    refine ⟨fun resource _ => ⟨Focus.resourceCode { resource } "no.parameters.for.update", "id"⟩,
      fun f => bears_ite bears_pass ?_⟩
    exact bears_violated _ _ (some "id") _ _

theorem Outright.steady (r : Outright) : Steady fun f => r.judge f := by
  cases r with
  | withCode suffix args => exact steady_of_suffix suffix fun f => bears_violated _ _ _ _ _
  | withResourceCode suffix args =>
    exact ⟨fun resource field => ⟨Focus.resourceCode { resource } suffix, field.getD ""⟩,
      fun f => bears_violated _ _ _ _ _⟩
  | invalidValue kind v => exact steady_of_suffix _ fun f => f.report_bears _ _ _ _
  | notAnArray => exact steady_of_suffix _ fun f => f.report_bears _ _ _ _

def Check.suffix (c : Check) : String :=
  if c.outcome = .parseError then Schedule.uncutSuffix else Schedule.rejectedSuffix

theorem Schedule.recurrence_bears (f : Focus) (t : String) (c : Check) (rule : Option String) :
    ((recurrence rule).verdict f t c).Bears ⟨fixedCode c.suffix, f.field.getD ""⟩ := by
  obtain ⟨outcome, reason⟩ := c
  cases outcome with
  | valid => exact bears_pass
  | invalid => exact bears_violated _ _ _ _ _
  | parseError => exact bears_violated _ _ _ _ _

theorem Schedule.steady_recurrence (checkers : Checkers) (rule : Option String) :
    Steady fun f => (recurrence rule).judge checkers f := by
  have hq : ∀ f, question f (recurrence rule) = question {} (recurrence rule) := by
    intro f
    cases rule <;> rfl
  obtain ⟨o, ho⟩ := exists_result (question {} (recurrence rule))
  cases o with
  | none =>
    refine steady_of_suffix "" fun f => bears_bind fun asked h => ?_
    obtain rfl := ho asked ((hq f).symm.trans h)
    exact bears_pass
  | some t =>
    have : Nonempty Check := ⟨.valid⟩
    obtain ⟨c, hc⟩ := exists_result (checkers .recurrence t)
    refine ⟨fun _ field => ⟨fixedCode c.suffix, field.getD ""⟩, fun f => ?_⟩
    refine bears_bind fun asked h => ?_
    obtain rfl := ho asked ((hq f).symm.trans h)
    refine bears_bind fun answer ha => ?_
    obtain rfl := hc answer ha
    exact recurrence_bears f t answer rule

theorem Schedule.steady_cron (checkers : Checkers) :
    Steady fun f => cron.judge checkers f := by
  apply steady_of_suffix
  intro f
  refine bears_bind fun question _ => ?_
  cases question with
  | none => exact bears_pass
  | some t => exact bears_bind fun c _ => bears_ite bears_pass (f.report_bears _ _ _ _)

def Rule.namesPlace : Rule → Bool
  | .required .present => true
  | .required .nonBlank => true
  | _ => false

namespace Focus

def placeText (f : Focus) : List Char :=
  match f.named? with
  | some p => '[' :: (Text.integerText p.index ++ ']' :: '[' :: (p.part.toList ++ [']']))
  | none => []

/-- The name that a missing value is reported by, were there room for every index. -/
def placedName (f : Focus) : String := f.field.getD "" ++ String.ofList f.placeText

theorem eq_placedName {f : Focus} {name : String} (h : f.reportedField? = some name) :
    name = f.placedName := by
  unfold reportedField? at h
  unfold placedName placeText
  cases hp : f.named? with
  | none =>
    simp only [hp, Option.some.injEq] at h
    simp [h]
  | some p =>
    simp only [hp] at h
    obtain ⟨index, hi, h⟩ := Option.bind_eq_some_iff.1 h
    obtain rfl := Text.eq_of_integerText? hi
    rw [← Option.some.inj h, ← String.toList_inj]
    simp

def mandatoryLabel (f : Focus) : Label := ⟨f.elementCode "cannot.be.blank", f.placedName⟩

theorem mandatory_bears (f : Focus) : f.mandatory.Bears f.mandatoryLabel := by
  unfold mandatory
  split
  · rename_i name h
    rw [mandatoryLabel, ← eq_placedName h]
    exact bears_violated _ _ (some name) _ _
  · exact bears_error _

end Focus

theorem Required.present_bears (f : Focus) : (present.judge f).Bears f.mandatoryLabel :=
  bears_ite f.mandatory_bears bears_pass

theorem Required.nonBlank_bears (f : Focus) : (nonBlank.judge f).Bears f.mandatoryLabel :=
  bears_ite bears_pass (bears_bind fun _ _ => bears_ite f.mandatory_bears bears_pass)

theorem Required.steady {r : Required} (h : (Rule.required r).namesPlace = false) :
    Steady fun f => r.judge f := by
  cases r with
  | present => cases h
  | nonBlank => cases h
  | nonEmptyArray =>
    apply steady_of_suffix
    intro f
    refine bears_ite bears_pass (bears_ite (f.report_bears _ _ _ _) ?_)
    exact bears_bind fun items _ => bears_ite (f.report_bears _ _ _ _) bears_pass
  | nonEmptyCollection =>
    apply steady_of_suffix
    intro f
    rw [judge]
    refine f.judgePresent_bears fun v => bears_bind fun items _ => bears_ite ?_ bears_pass
    exact f.report_bears _ _ _ _
  | whenOtherIs name v =>
    obtain ⟨t, ht⟩ := exists_result v.wordingText
    refine steady_of_suffix ("must.be.provided.when." ++ name ++ ".is." ++ t) fun f => ?_
    refine bears_bind fun blank _ => bears_ite (bears_bind fun u hu => ?_) bears_pass
    rw [← ht u hu]
    exact f.report_bears _ _ _ _
  | trueOrFalse provided =>
    exact steady_of_suffix _ fun f => bears_ite bears_pass (f.report_bears _ _ _ _)

theorem Rule.steady (checkers : Checkers) {r : Rule} (h : r.namesPlace = false) :
    Steady fun f => r.judge checkers f := by
  cases r with
  | required r => exact Required.steady h
  | linked r => exact r.steady
  | whole r => exact r.steady
  | amount r => exact r.steady
  | choice r => exact r.steady
  | wording r => exact r.steady
  | day r => exact r.steady
  | outright r => exact r.steady
  | schedule r =>
    cases r with
    | recurrence rule => exact Schedule.steady_recurrence checkers rule
    | cron => exact Schedule.steady_cron checkers

theorem Rule.mandatory_bears (checkers : Checkers) {r : Rule} (h : r.namesPlace = true)
    (f : Focus) : (r.judge checkers f).Bears f.mandatoryLabel := by
  cases r with
  | required r =>
    cases r with
    | present => exact Required.present_bears f
    | nonBlank => exact Required.nonBlank_bears f
    | _ => cases h
  | _ => cases h

theorem Verdict.Bears.agree {v w : Verdict} {l : Label} (hv : v.Bears l) (hw : w.Bears l)
    {e d : ErrorRecord} (he : v = .ok (some e)) (hd : w = .ok (some d)) :
    e.code = d.code ∧ e.field = d.field := by
  obtain ⟨hc, hf⟩ := hv e he
  obtain ⟨hc', hf'⟩ := hw d hd
  exact ⟨hc.trans hc'.symm, hf.trans hf'.symm⟩

/-- Reports of one rule on one place have one code and name one parameter, whatever the values
are. To all rules but those on missing values it is the same place wherever in a list it is. -/
theorem label_of_place (checkers : Checkers) (r : Rule) (f g : Focus) (e d : ErrorRecord)
    (hr : f.resource = g.resource) (hn : f.field = g.field)
    (hp : r.namesPlace = true → f.position = g.position)
    (he : r.judge checkers f = .ok (some e)) (hd : r.judge checkers g = .ok (some d)) :
    e.code = d.code ∧ e.field = d.field := by
  cases h : r.namesPlace with
  | false =>
    obtain ⟨label, hl⟩ := Rule.steady checkers h
    have hg := hl g
    rw [← hr, ← hn] at hg
    exact (hl f).agree hg he hd
  | true =>
    have hl : g.mandatoryLabel = f.mandatoryLabel := by
      obtain ⟨resource, field, position, v, skip⟩ := f
      obtain ⟨resource', field', position', v', skip'⟩ := g
      obtain rfl : resource = resource' := hr
      obtain rfl : field = field' := hn
      obtain rfl : position = position' := hp h
      rfl
    have hg := Rule.mandatory_bears checkers h g
    rw [hl] at hg
    exact (Rule.mandatory_bears checkers h f).agree hg he hd

theorem label_of_place_given :
    let checkers : Checkers := fun _ _ => .ok .valid
    let r : Rule := .linked (.blankWhenIs "kind" (.bool true))
    let f : Focus := { resource := some "loan", field := some "charges",
                       position := some ⟨"amount", 0⟩, value := .text "secret" }
    let g : Focus := { resource := some "loan", field := some "charges",
                       position := some ⟨"amount", 1⟩, value := .list [.int 7],
                       skipAbsent := true }
    ∃ e d, (r.judge checkers f = .ok (some e) ∧ r.judge checkers g = .ok (some d)) ∧
      e.code = d.code ∧ e.field = d.field := by
  intro checkers r f g
  have hf : ∃ e, r.judge checkers f = .ok (some e) := ⟨_, rfl⟩
  have hg : ∃ d, r.judge checkers g = .ok (some d) := ⟨_, rfl⟩
  obtain ⟨e, he⟩ := hf
  obtain ⟨d, hd⟩ := hg
  exact ⟨e, d, ⟨he, hd⟩, label_of_place checkers r f g e d rfl rfl (fun h => nomatch h) he hd⟩

end Scrutiny
