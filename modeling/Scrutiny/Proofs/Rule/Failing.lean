import Scrutiny.Proofs.Decimal.Range
import Scrutiny.Proofs.Rule.Absence
import Scrutiny.Proofs.Value.Writing

/-!
# How rules on magnitudes fail

A rule on a magnitude refuses what it cannot read, and one of them refuses zero. As long as its
bounds are numbers, nothing else makes it fail but numbers out of proportion: integers and digits
that are too long for text, an amount beyond the working range where digits after the point are
counted, and a decimal bound of which a value would be too many times the multiple.
-/

set_option autoImplicit false

namespace Scrutiny

open Text

/-- What a magnitude is compared with: an integer, as which a truth value counts, or a finite
decimal. -/
inductive Value.IsBound : Value → Prop
  | bool (b : Bool) : IsBound (.bool b)
  | int (n : Int) : IsBound (.int n)
  | decimal (negative : Bool) (c : Nat) (e : Int) : IsBound (.decimal (.finite negative c e))

theorem Decimal.compare?_finite (n m : Bool) (c d : Nat) (e f : Int) :
    ∃ o, compare? (.finite n c e) (.finite m d f) = some o := by
  simp only [compare?]
  split
  · exact ⟨_, rfl⟩
  · split
    · exact ⟨_, rfl⟩
    · split
      · exact ⟨_, rfl⟩
      · split <;> exact ⟨_, rfl⟩

namespace Value
variable {a b : Value}

theorem IsBound.number? (h : b.IsBound) : ∃ n c e, b.number? = some (.finite n c e) := by
  cases h <;> exact ⟨_, _, _, rfl⟩

theorem IsBound.compares_eq (ha : a.IsBound) (hb : b.IsBound) (op : Comparison) {x y : Decimal}
    (hx : a.number? = some x) (hy : b.number? = some y) :
    compares op a b = compareNumbers op (a.isDecimal || b.isDecimal) x y := by
  cases ha <;> cases hb <;> simp [compares, compareScalars, hx, hy]

theorem IsBound.compares (ha : a.IsBound) (hb : b.IsBound) (op : Comparison) :
    ∃ r, Value.compares op a b = .ok r := by
  obtain ⟨n, c, e, hx⟩ := ha.number?
  obtain ⟨m, d, f, hy⟩ := hb.number?
  obtain ⟨o, ho⟩ := Decimal.compare?_finite n m c d e f
  rw [ha.compares_eq hb op hx hy, compareNumbers, ho]
  exact ⟨_, rfl⟩

theorem IsBound.equal_eq (ha : a.IsBound) (hb : b.IsBound) {x y : Decimal}
    (hx : a.number? = some x) (hy : b.number? = some y) : equal a b = equalNumbers x y := by
  cases ha <;> cases hb <;> simp [equal, hx, hy]

theorem IsBound.equal (ha : a.IsBound) (hb : b.IsBound) : ∃ r, Value.equal a b = .ok r := by
  obtain ⟨n, c, e, hx⟩ := ha.number?
  obtain ⟨m, d, f, hy⟩ := hb.number?
  rw [ha.equal_eq hb hx hy, equalNumbers]
  exact ⟨_, rfl⟩

end Value

def AreBounds (optional : Bool) (bs : List Value) : Prop :=
  ∀ b ∈ bs, b.IsBound ∨ optional = true ∧ b = .null

namespace AreBounds
variable {optional : Bool} {b : Value} {bs : List Value}

theorem singleton (h : b.IsBound) : AreBounds optional [b] := by
  intro b' hb
  obtain rfl := List.mem_singleton.1 hb
  exact .inl h

theorem given (h : AreBounds optional bs) (hb : b ∈ bs) (hn : b ≠ .null) : b.IsBound :=
  (h b hb).resolve_right fun hm => hn hm.2

theorem required (h : AreBounds false bs) (hb : b ∈ bs) : b.IsBound :=
  (h b hb).resolve_right fun hm => Bool.false_ne_true hm.1

end AreBounds

section
variable {P : Fault → Prop}

theorem Value.IsBound.compares_failsBy {a b : Value} (ha : a.IsBound) (hb : b.IsBound)
    (op : Comparison) : FailsBy (Value.compares op a b) P := by
  obtain ⟨r, h⟩ := ha.compares hb op
  rw [h]
  exact failsBy_ok r

theorem Value.IsBound.equal_failsBy {a b : Value} (ha : a.IsBound) (hb : b.IsBound) :
    FailsBy (Value.equal a b) P := by
  obtain ⟨r, h⟩ := ha.equal hb
  rw [h]
  exact failsBy_ok r

theorem endingIn_failsBy {b : Value} (text : String) (h : FailsBy b.plainText P) :
    FailsBy (endingIn text b) P :=
  failsBy_bind h fun _ _ => failsBy_ok _

theorem Verdict.unlessNull_failsBy {b : Value} {v : Verdict} (h : b ≠ .null → FailsBy v P) :
    FailsBy (unlessNull b v) P := by
  refine failsBy_ite (fun _ => failsBy_ok _) fun hn => h ?_
  rintro rfl
  exact hn rfl

namespace Focus
variable {f : Focus}

theorem report_failsBy (suffix text : String) (rejected : Value) (args : List Value) :
    FailsBy (f.report suffix text rejected args) P :=
  failsBy_ok _

theorem judgePresent_failsBy {judge : Value → Verdict} (h : FailsBy (judge f.value) P) :
    FailsBy (f.judgePresent judge) P :=
  failsBy_ite (fun _ => failsBy_ok _) fun _ => h

theorem judgeWhole_failsBy {w : Width} {fails : Value → Except Fault Bool} {suffix : String}
    {text : Except Fault String} {bounds : List Value}
    (hread : FailsBy (f.value.asInteger f.field w) P)
    (hfails : ∀ n, f.value.asInteger f.field w = .ok n → FailsBy (fails (.int n)) P)
    (htext : FailsBy text P) : FailsBy (f.judgeWhole w fails suffix text bounds) P := by
  refine judgePresent_failsBy (failsBy_bind hread fun n hn => ?_)
  refine failsBy_bind (hfails n hn) fun failed _ => failsBy_ite (fun _ => ?_) fun _ => failsBy_ok _
  exact failsBy_bind htext fun t _ => report_failsBy suffix t _ _

theorem judgeAmount_failsBy {fails : Decimal → Except Fault Bool} {suffix : Except Fault String}
    {text : Decimal → Except Fault String} {bounds : List Value}
    (hread : FailsBy (f.value.asDecimal f.field) P)
    (hfails : ∀ d, f.value.asDecimal f.field = .ok d → FailsBy (fails d) P)
    (hsuffix : FailsBy suffix P) (htext : ∀ d, FailsBy (text d) P) :
    FailsBy (f.judgeAmount fails suffix text bounds) P := by
  refine judgePresent_failsBy (failsBy_bind hread fun d hd => ?_)
  refine failsBy_bind (hfails d hd) fun failed _ => failsBy_ite (fun _ => ?_) fun _ => failsBy_ok _
  refine failsBy_bind hsuffix fun s _ => failsBy_bind (htext d) fun t _ => ?_
  exact report_failsBy s t _ _

end Focus
end

namespace Whole

def width : Whole → Width
  | .zeroOrGreater w => w
  | .greaterThanZero w => w
  | .greaterThan w _ => w
  | .greaterThanAt .. => .long
  | _ => .short

def bounds : Whole → List Value
  | .between low high => [low, high]
  | .zeroOrGreater _ => []
  | .greaterThanZero _ => []
  | .greaterThan _ b => [b]
  | .greaterThanAt _ b index => [b, index]
  | .atLeast b => [b]
  | .sameAs b => [b]
  | .multipleOf b => [b]
  | .notBelow b => [b]
  | .notAbove b => [b]

def isOptional : Whole → Bool
  | .notBelow _ => true
  | .notAbove _ => true
  | _ => false

def Proper (r : Whole) : Prop := AreBounds r.isOptional r.bounds

/-- What a rule on an integer can fail by. -/
inductive Failing (f : Focus) (r : Whole) : Fault → Prop
  | misread {e : Fault} (h : Misread f.field f.value r.width.target e) : Failing f r e
  | zero (b : Value) (hr : r = .multipleOf b) (hb : b.equal (.int 0) = .ok true) :
      Failing f r (.refused (.zeroMultiple f.field))
  | unwritable (b : Value) (hb : b ∈ r.bounds) (h : HasLong b.integers) : Failing f r .wrongValue
  | tiny (n : Int) (d : Decimal) (hr : r = .multipleOf (.decimal d))
      (hn : f.value.asInteger f.field .short = .ok n) (hd : d.IsTiny n) :
      Failing f r .undefinedNumber

section
variable {f : Focus} {r : Whole} {b : Value}

theorem read_failsBy (f : Focus) (r : Whole) :
    FailsBy (f.value.asInteger f.field r.width) (r.Failing f) :=
  (f.value.asInteger_failsBy f.field r.width).mono fun _ h => .misread h

theorem plainText_failsBy (hb : b ∈ r.bounds) : FailsBy b.plainText (r.Failing f) :=
  b.plainText_failsBy fun h => .unwritable b hb h

theorem judgeBound_failsBy {w : Width} (hw : r.width = w) (hb : b ∈ r.bounds) (hn : b.IsBound)
    (op : Comparison) (suffix text : String) :
    FailsBy (f.judgeWhole w (fun n => Value.compares op n b) suffix (endingIn text b) [b])
      (r.Failing f) := by
  subst hw
  refine Focus.judgeWhole_failsBy (read_failsBy f r) (fun n _ => ?_) ?_
  · exact (Value.IsBound.int n).compares_failsBy hn op
  · exact endingIn_failsBy text (plainText_failsBy hb)

theorem judgeFixed_failsBy {w : Width} (hw : r.width = w) (op : Comparison) (k : Int)
    (suffix text : String) (bounds : List Value) :
    FailsBy (f.judgeWhole w (fun n => Value.compares op n (.int k)) suffix (.ok text) bounds)
      (r.Failing f) := by
  subst hw
  refine Focus.judgeWhole_failsBy (read_failsBy f r) (fun n _ => ?_) (failsBy_ok text)
  exact (Value.IsBound.int n).compares_failsBy (.int k) op

theorem isMultipleOf_failsBy {n : Int} (hb : b.IsBound) (hz : b.equal (.int 0) = .ok false) :
    FailsBy ((Value.int n).isMultipleOf b)
      fun e => e = .undefinedNumber ∧ ∃ d, b = .decimal d ∧ d.IsTiny n := by
  cases hb with
  | bool b => exact failsBy_ok _
  | int m => exact failsBy_ok _
  | decimal s c e =>
    have hc : c ≠ 0 := by
      rintro rfl
      rw [(Value.IsBound.decimal s 0 e).equal_eq (.int 0) rfl rfl] at hz
      cases hz
    rw [Value.isMultipleOf]
    split
    · exact failsBy_ok _
    · rename_i hnone
      exact failsBy_error ⟨rfl, _, rfl, Decimal.isMultiple_none hc hnone⟩

theorem multipleOf_failsBy (h : (multipleOf b).Proper) :
    FailsBy ((multipleOf b).judge f) ((multipleOf b).Failing f) := by
  have hmem : b ∈ (multipleOf b).bounds := List.mem_cons_self
  have hb := h.required hmem
  rw [judge]
  refine Focus.judgePresent_failsBy (failsBy_bind (hb.equal_failsBy (.int 0)) fun zero hz => ?_)
  -- Zero is refused before the value is read, so that no other bound is divided by.
  refine failsBy_ite (fun h0 => ?_) fun h0 => ?_
  · rw [h0] at hz
    exact failsBy_error (.zero b rfl hz)
  · have hz : b.equal (.int 0) = .ok false := by simpa [h0] using hz
    refine Focus.judgeWhole_failsBy (read_failsBy f (multipleOf b)) (fun n hn => ?_)
      (endingIn_failsBy _ (plainText_failsBy hmem))
    refine failsBy_bind ((Value.IsBound.int n).compares_failsBy hb .less) fun less _ => ?_
    refine failsBy_ite (fun _ => failsBy_ok _) fun _ => ?_
    refine failsBy_bind ((isMultipleOf_failsBy hb hz).mono ?_) fun multiple _ => failsBy_ok _
    rintro e ⟨rfl, d, rfl, hd⟩
    exact .tiny n d rfl hn hd

theorem judge_failsBy (f : Focus) (h : r.Proper) : FailsBy (r.judge f) (r.Failing f) := by
  cases r with
  | between low high =>
    have hl := h.required (b := low) (by simp [bounds])
    have hh := h.required (b := high) (by simp [bounds])
    rw [judge]
    refine Focus.judgeWhole_failsBy (read_failsBy f (between low high)) (fun n _ => ?_) ?_
    · refine failsBy_bind ((Value.IsBound.int n).compares_failsBy hl .less) fun less _ => ?_
      exact failsBy_ite (fun _ => failsBy_ok _) fun _ =>
        (Value.IsBound.int n).compares_failsBy hh .greater
    · refine failsBy_bind (plainText_failsBy (by simp [bounds])) fun a _ => ?_
      exact failsBy_bind (plainText_failsBy (by simp [bounds])) fun b _ => failsBy_ok _
  | zeroOrGreater w =>
    cases w with
    | short => exact judgeFixed_failsBy (r := zeroOrGreater .short) rfl .less 0 _ _ _
    | long => exact judgeFixed_failsBy (r := zeroOrGreater .long) rfl .less 0 _ _ _
  | greaterThanZero w => exact judgeFixed_failsBy (r := greaterThanZero w) rfl .less 1 _ _ _
  | greaterThan w b =>
    exact judgeBound_failsBy (r := greaterThan w b) rfl List.mem_cons_self
      (h.required List.mem_cons_self) .atMost _ _
  | greaterThanAt name b index =>
    have hb := h.required (b := b) (by simp [bounds])
    rw [judge]
    refine Focus.judgePresent_failsBy
      (failsBy_bind (read_failsBy f (greaterThanAt name b index)) fun n _ => ?_)
    refine failsBy_bind ((Value.IsBound.int n).compares_failsBy hb .atMost) fun failed _ => ?_
    refine failsBy_ite (fun _ => ?_) fun _ => failsBy_ok _
    refine failsBy_bind (plainText_failsBy (by simp [bounds])) fun place _ => ?_
    refine failsBy_bind (endingIn_failsBy _ (plainText_failsBy (by simp [bounds]))) fun t _ => ?_
    exact Focus.report_failsBy _ _ _ _
  | atLeast b =>
    exact judgeBound_failsBy (r := atLeast b) rfl List.mem_cons_self
      (h.required List.mem_cons_self) .less _ _
  | sameAs b =>
    have hb := h.required (b := b) List.mem_cons_self
    rw [judge]
    refine Focus.judgeWhole_failsBy (read_failsBy f (sameAs b)) (fun n _ => ?_)
      (endingIn_failsBy _ (plainText_failsBy List.mem_cons_self))
    exact failsBy_bind ((Value.IsBound.int n).equal_failsBy hb) fun same _ => failsBy_ok _
  | multipleOf b => exact multipleOf_failsBy h
  | notBelow b =>
    refine Verdict.unlessNull_failsBy fun hn => ?_
    exact judgeBound_failsBy (r := notBelow b) rfl List.mem_cons_self
      (h.given List.mem_cons_self hn) .less _ _
  | notAbove b =>
    refine Verdict.unlessNull_failsBy fun hn => ?_
    exact judgeBound_failsBy (r := notAbove b) rfl List.mem_cons_self
      (h.given List.mem_cons_self hn) .greater _ _

end
end Whole

theorem Value.isFinite_of_asDecimal {field : Option String} {v : Value} {d : Decimal}
    (h : v.asDecimal field = .ok d) : d.isFinite = true := by
  unfold asDecimal at h
  split at h
  · exact absurd h unreadable_ne_ok
  · obtain ⟨hf, rfl⟩ := finite_eq_ok.1 h
    exact hf
  · rw [← Except.ok.inj h]
    rfl
  · obtain ⟨t, -, h⟩ := ok_of_bind h
    split at h
    · obtain ⟨hf, rfl⟩ := finite_eq_ok.1 h
      exact hf
    · exact absurd h unreadable_ne_ok

theorem Value.IsBound.of_asDecimal {field : Option String} {v : Value} {d : Decimal}
    (h : v.asDecimal field = .ok d) : (Value.decimal d).IsBound := by
  have hf := isFinite_of_asDecimal h
  cases d with
  | finite n c e => exact .decimal n c e
  | _ => cases hf

theorem Decimal.scaleOf_failsBy {d : Decimal} (h : d.isFinite = true) :
    FailsBy d.scaleOf fun e => e = .numberTooLarge ∧ d.IsVast := by
  cases d with
  | finite n c e =>
    unfold scaleOf
    cases hs : scale (.finite n c e) with
    | ok k => exact failsBy_ok _
    | error error =>
      obtain ⟨rfl, hv⟩ := scale_error hs
      exact failsBy_error ⟨rfl, hv⟩
  | _ => cases h

namespace Amount

def bounds : Amount → List Value
  | .positive => []
  | .zeroOrPositive => []
  | .notBelow b => [b]
  | .notAbove b => [b]
  | .between low high => [low, high]
  | .scaleAtMost s => [s]
  | .orderedAmounts low high => [low, high]
  | .orderedNumbers low high => [low, high]

def isOptional : Amount → Bool
  | .scaleAtMost _ => false
  | _ => true

def Proper (r : Amount) : Prop := AreBounds r.isOptional r.bounds

/-- What a rule on an amount in focus can fail by. -/
inductive Failing (f : Focus) (r : Amount) : Fault → Prop
  | misread {e : Fault} (h : Misread f.field f.value .decimal e) : Failing f r e
  | unwritable (b : Value) (hb : b ∈ r.bounds) (h : HasLong b.integers) : Failing f r .wrongValue
  | vast (s : Value) (d : Decimal) (hr : r = .scaleAtMost s)
      (hd : f.value.asDecimal f.field = .ok d) (hv : d.IsVast) : Failing f r .numberTooLarge

section
variable {f : Focus} {r : Amount} {b : Value}

theorem read_failsBy (f : Focus) (r : Amount) :
    FailsBy (f.value.asDecimal f.field) (r.Failing f) :=
  (f.value.asDecimal_failsBy f.field).mono fun _ h => .misread h

theorem ending_failsBy (hb : b ∈ r.bounds) (text : String) :
    FailsBy (endingIn text b) (r.Failing f) :=
  endingIn_failsBy text (b.plainText_failsBy fun h => .unwritable b hb h)

theorem around_failsBy (hb : b ∈ r.bounds) (before after : String) (d : Decimal) :
    FailsBy (around before after b d) (r.Failing f) := by
  refine failsBy_bind (failsBy_ok (String.ofList d.text)) fun amount _ => ?_
  exact failsBy_bind (ending_failsBy hb after) fun t _ => failsBy_ok _

theorem judgeBound_failsBy (hb : b ∈ r.bounds) (hn : b.IsBound) (op : Comparison)
    (suffix before after : String) :
    FailsBy (f.judgeAmount (fun d => Value.compares op (.decimal d) b) (.ok suffix)
      (around before after b) [b]) (r.Failing f) := by
  refine Focus.judgeAmount_failsBy (read_failsBy f r) (fun d hd => ?_) (failsBy_ok suffix)
    fun d => around_failsBy hb before after d
  exact (Value.IsBound.of_asDecimal hd).compares_failsBy hn op

theorem judgeZero_failsBy (op : Comparison) (suffix text : String) (bounds : List Value) :
    FailsBy (f.judgeAmount (fun d => Value.compares op (.decimal d) (.int 0)) (.ok suffix)
      (fun _ => .ok text) bounds) (r.Failing f) := by
  refine Focus.judgeAmount_failsBy (read_failsBy f r) (fun d hd => ?_) (failsBy_ok suffix)
    fun _ => failsBy_ok text
  exact (Value.IsBound.of_asDecimal hd).compares_failsBy (.int 0) op

theorem between_failsBy {low high : Value} (h : (between low high).Proper) :
    FailsBy ((between low high).judge f) ((between low high).Failing f) := by
  have hlm : low ∈ (between low high).bounds := by simp [bounds]
  have hhm : high ∈ (between low high).bounds := by simp [bounds]
  refine Verdict.unlessNull_failsBy fun hln => Verdict.unlessNull_failsBy fun hhn => ?_
  refine Focus.judgeAmount_failsBy (read_failsBy f (between low high)) (fun d hd => ?_)
    (failsBy_ok _) fun d => ?_
  · have hb := Value.IsBound.of_asDecimal hd
    refine failsBy_bind (hb.compares_failsBy (h.given hlm hln) .less) fun less _ => ?_
    exact failsBy_ite (fun _ => failsBy_ok _) fun _ =>
      hb.compares_failsBy (h.given hhm hhn) .greater
  · refine failsBy_bind (around_failsBy hlm _ _ d) fun t _ => ?_
    exact failsBy_bind (ending_failsBy hhm _) fun t' _ => failsBy_ok _

theorem scaleAtMost_failsBy {s : Value} (h : (scaleAtMost s).Proper) :
    FailsBy ((scaleAtMost s).judge f) ((scaleAtMost s).Failing f) := by
  have hm : s ∈ (scaleAtMost s).bounds := List.mem_cons_self
  have hs : s.IsBound := h.required hm
  refine Focus.judgeAmount_failsBy (read_failsBy f (scaleAtMost s)) (fun d hd => ?_)
    (ending_failsBy hm _) fun d => ?_
  · refine failsBy_bind ((Decimal.scaleOf_failsBy (Value.isFinite_of_asDecimal hd)).mono ?_)
      fun k _ => (Value.IsBound.int k).compares_failsBy hs .greater
    rintro e ⟨rfl, hv⟩
    exact .vast s d rfl hd hv
  · exact failsBy_bind (around_failsBy hm _ _ d) fun t _ => failsBy_ok _

theorem judge_failsBy (f : Focus) (hf : (Rule.amount r).readsFocus = true) (h : r.Proper) :
    FailsBy (r.judge f) (r.Failing f) := by
  cases r with
  | positive => exact judgeZero_failsBy .atMost _ _ _
  | zeroOrPositive => exact judgeZero_failsBy .less _ _ _
  | notBelow b =>
    refine Verdict.unlessNull_failsBy fun hn => ?_
    exact judgeBound_failsBy (r := notBelow b) List.mem_cons_self
      (h.given List.mem_cons_self hn) .less _ _ _
  | notAbove b =>
    refine Verdict.unlessNull_failsBy fun hn => ?_
    exact judgeBound_failsBy (r := notAbove b) List.mem_cons_self
      (h.given List.mem_cons_self hn) .greater _ _ _
  | between low high => exact between_failsBy h
  | scaleAtMost s => exact scaleAtMost_failsBy h
  | orderedAmounts => cases hf
  | orderedNumbers => cases hf

end
end Amount

/-- Reading an integer or a decimal fails by a refusal, unless the value or its digits are too
long for text, and a text of digits that are too many is always such an exception. A rule on a
magnitude in focus, with numbers as its bounds, fails by such a refusal or by that of zero, unless
its numbers are out of proportion. -/
theorem magnitudes_fail_so (checkers : Checkers) (f : Focus) :
    (∀ (field : Option String) (v : Value),
      (∀ w : Width, FailsBy (v.asInteger field w) (Misread field v w.target)) ∧
      FailsBy (v.asDecimal field) (Misread field v .decimal)) ∧
    (∀ (field : Option String) (w : Width) (s : String),
      (Value.text s).asInteger field w = .error .wrongValue ↔
        isSignedDigits s.toList = true ∧ digitLimit < (signOf s.toList).2.length) ∧
    (∀ r : Whole, r.Proper → FailsBy ((Rule.whole r).judge checkers f) (r.Failing f)) ∧
    ∀ r : Amount, (Rule.amount r).readsFocus = true → r.Proper →
      FailsBy ((Rule.amount r).judge checkers f) (r.Failing f) := by
  refine ⟨fun field v => ⟨?_, ?_⟩, fun field w s => ?_, fun r h => ?_, fun r hr h => ?_⟩
  · exact v.asInteger_failsBy field
  · exact v.asDecimal_failsBy field
  · exact Value.asInteger_text_wrongValue_iff field w s
  · exact Whole.judge_failsBy f h
  · exact Amount.judge_failsBy f hr h

theorem magnitudes_fail_so_refusing :
    let checkers : Checkers := fun _ _ => .ok .valid
    let f : Focus := { field := some "age", value := .text "dozen" }
    let zero : Whole := .multipleOf (.int 0)
    let least : Amount := .notBelow (.decimal (.finite false 15 (-1)))
    (∃ e, (Rule.whole zero).judge checkers f = .error e ∧ zero.Failing f e) ∧
    ∃ e, (Rule.amount least).judge checkers f = .error e ∧ least.Failing f e := by
  intro checkers f zero least
  have h := magnitudes_fail_so checkers f
  have hz : zero.Proper := .singleton (.int 0)
  have hl : least.Proper := .singleton (.decimal false 15 (-1))
  have hzero : (Rule.whole zero).judge checkers f = .error (.refused (.zeroMultiple f.field)) := by
    have he := (Value.IsBound.int 0).equal_eq (.int 0) rfl rfl
    rw [Rule.judge, Whole.judge, Focus.judgePresent_of_ne (by simp [f]), he]
    rfl
  exact ⟨⟨_, hzero, h.2.2.1 zero hz _ hzero⟩, _, rfl, h.2.2.2 least rfl hl _ rfl⟩

theorem signOf_ones (k : Nat) :
    signOf (List.replicate (k + 1) '1') = (false, List.replicate (k + 1) '1') := rfl

theorem isSignedDigits_ones (k : Nat) : isSignedDigits (List.replicate (k + 1) '1') = true := by
  have hd : isDigit '1' = true := by decide
  rw [isSignedDigits, signOf_ones]
  simp [hd]

/-- Numbers out of proportion, which are not refused: too many digits, a bound that is too small
and an amount that is too large. -/
theorem disproportion_not_refused :
    let checkers : Checkers := fun _ _ => .ok .valid
    (Value.text (String.ofList (List.replicate 4301 '1'))).asInteger (some "age") .short =
      .error .wrongValue ∧
    (Rule.whole (.multipleOf (.decimal (.finite false 1 (-30))))).judge checkers
      { field := some "age", value := .int 1 } = .error .undefinedNumber ∧
    (Rule.amount (.scaleAtMost (.int 2))).judge checkers
      { field := some "age", value := .decimal (.finite false 1 1000000) } =
      .error .numberTooLarge := by
  intro checkers
  refine ⟨?_, ?_, rfl⟩
  · refine Value.asInteger_of_long (some "age") .short ?_ ?_
    · rw [String.toList_ofList]
      exact isSignedDigits_ones 4300
    · rw [String.toList_ofList, signOf_ones 4300, List.length_replicate]
      decide
  · have he := (Value.IsBound.decimal false 1 (-30)).equal_eq (.int 0) rfl rfl
    rw [Rule.judge, Whole.judge, Focus.judgePresent_of_ne (by simp), he]
    rfl

end Scrutiny
