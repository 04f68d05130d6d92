import Scrutiny.Proofs.Decimal.Quantity
import Scrutiny.Proofs.Rule.Failing

/-!
# What rules on magnitudes decide

Once the value in focus is read and the bounds can be written, a rule that compares numbers passes
or reports, and which of the two is a matter of the number alone. What is demanded of it is an
inequality between rational numbers, as exact for decimals as for integers.
-/

set_option autoImplicit false

namespace Scrutiny

open Text

namespace Value

def toRat (v : Value) : ℚ := (v.number?.map Decimal.toRat).getD 0

@[simp] theorem toRat_int (n : Int) : (Value.int n).toRat = n := Decimal.toRat_ofInt n

@[simp] theorem toRat_decimal (d : Decimal) : (Value.decimal d).toRat = d.toRat := rfl

end Value

namespace Comparison

def Relates : Comparison → ℚ → ℚ → Prop
  | .less, x, y => x < y
  | .atMost, x, y => x ≤ y
  | .greater, x, y => y < x
  | .atLeast, x, y => y ≤ x

instance (op : Comparison) (x y : ℚ) : Decidable (op.Relates x y) :=
  match op with
  | .less => inferInstanceAs (Decidable (x < y))
  | .atMost => inferInstanceAs (Decidable (x ≤ y))
  | .greater => inferInstanceAs (Decidable (y < x))
  | .atLeast => inferInstanceAs (Decidable (y ≤ x))

theorem holds_iff (op : Comparison) {o : Ordering} {x y : ℚ} (h : o.Compares x y) :
    op.holds o = true ↔ op.Relates x y := by
  cases op with
  | less =>
    rw [holds, beq_iff_eq]
    exact h.eq_lt
  | atMost =>
    rw [holds, bne_iff_ne]
    exact h.ne_gt
  | greater =>
    rw [holds, beq_iff_eq]
    exact h.eq_gt
  | atLeast =>
    rw [holds, bne_iff_ne]
    exact h.ne_lt

end Comparison

theorem Value.IsBound.compares_relates {a b : Value} (ha : a.IsBound) (hb : b.IsBound)
    (op : Comparison) : Value.compares op a b = .ok (decide (op.Relates a.toRat b.toRat)) := by
  obtain ⟨n, c, e, hx⟩ := ha.number?
  obtain ⟨m, d, f, hy⟩ := hb.number?
  obtain ⟨o, ho, hc⟩ := Decimal.compare?_compares n m c d e f
  have hrel : op.holds o = decide (op.Relates a.toRat b.toRat) := by
    rw [Bool.eq_iff_iff, decide_eq_true_iff, Value.toRat, hx, Value.toRat, hy]
    exact op.holds_iff hc
  rw [ha.compares_eq hb op hx hy, compareNumbers, ho, ← hrel]

theorem Value.IsBound.outside {a low high : Value} (ha : a.IsBound) (hl : low.IsBound)
    (hh : high.IsBound) : (do if ← a.less low then return true else a.greater high) =
      (.ok (decide (a.toRat < low.toRat ∨ high.toRat < a.toRat)) : Except Fault Bool) := by
  have hless : a.less low = .ok (decide (a.toRat < low.toRat)) := ha.compares_relates hl .less
  have hgreater : a.greater high = .ok (decide (high.toRat < a.toRat)) :=
    ha.compares_relates hh .greater
  rw [hless, hgreater]
  by_cases h : a.toRat < low.toRat <;> simp [h, bind, Except.bind, pure, Except.pure]

namespace Verdict

def Reports (v : Verdict) : Prop := ∃ e, v = violated e

/-- A verdict that passes if something holds, and reports if it does not. -/
structure Decides (v : Verdict) (p : Prop) : Prop where
  passes : p → v = pass
  reports : ¬ p → v.Reports

variable {v : Verdict} {p q : Prop}

theorem Decides.congr (h : v.Decides p) (hpq : p ↔ q) : v.Decides q :=
  ⟨fun hq => h.passes (hpq.2 hq), fun hq => h.reports fun hp => hq (hpq.1 hp)⟩

theorem decides_pass (h : p) : pass.Decides p := ⟨fun _ => rfl, fun hp => absurd h hp⟩

theorem Reports.decides (h : v.Reports) (hp : ¬ p) : v.Decides p :=
  ⟨fun hn => absurd hn hp, fun _ => h⟩

theorem not_reports_pass : ¬ pass.Reports := by
  rintro ⟨e, he⟩
  cases he

theorem Decides.reports_iff (h : v.Decides p) : v.Reports ↔ ¬ p := by
  constructor
  · intro hv hp
    rw [h.passes hp] at hv
    exact not_reports_pass hv
  · exact h.reports

theorem Decides.pass_iff (h : v.Decides p) : v = pass ↔ p := by
  refine ⟨fun hv => ?_, h.passes⟩
  by_contra hp
  exact not_reports_pass (hv ▸ h.reports hp)

theorem decides_by {test : Except Fault Bool} {w : Verdict} [Decidable q]
    (htest : test = .ok (decide q)) (hv : q → v.Decides p) (hw : ¬ q → w.Decides p) :
    Verdict.Decides (do if ← test then v else w) p := by
  rw [htest]
  by_cases h : q
  · rw [decide_eq_true h]
    exact hv h
  · rw [decide_eq_false h]
    exact hw h

theorem Decides.unlessNull {b : Value} (h : b ≠ .null → v.Decides p) :
    (unlessNull b v).Decides (b ≠ .null → p) := by
  by_cases hb : b = .null
  · subst hb
    exact decides_pass fun hn => absurd rfl hn
  · rw [Verdict.unlessNull, Value.isNull_of_ne hb, if_neg Bool.false_ne_true]
    exact (h hb).congr (by simp [hb])

end Verdict

theorem FailsBy.exists_ok {α : Type} {x : Except Fault α} (h : FailsBy x fun _ => False) :
    ∃ a, x = .ok a := by
  cases x with
  | ok a => exact ⟨a, rfl⟩
  | error e => exact absurd rfl (h e)

theorem exists_mapM_ok {α β : Type} {step : α → Except Fault β} {l : List α}
    (h : ∀ x ∈ l, ∃ b, step x = .ok b) : ∃ bs, l.mapM step = .ok bs := by
  induction l with
  | nil => exact ⟨[], rfl⟩
  | cons x l ih =>
    rw [List.forall_mem_cons] at h
    obtain ⟨b, hb⟩ := h.1
    obtain ⟨bs, hbs⟩ := ih h.2
    rw [List.mapM_cons, hb, hbs]
    exact ⟨b :: bs, rfl⟩

/-- A value that has a text: no integer in it is too long. -/
def Value.IsWritable (v : Value) : Prop := ¬ HasLong v.integers

namespace Value.IsWritable
variable {b : Value}

theorem plain (h : b.IsWritable) : ∃ t, b.plain = .ok t := by
  have hf : FailsBy b.plain fun _ => False := b.plain_failsBy.mono fun _ hl => h hl.2
  exact hf.exists_ok

theorem plainText (h : b.IsWritable) : ∃ t, b.plainText = .ok t := by
  have hf : FailsBy b.plainText fun _ => False := b.plainText_failsBy h
  exact hf.exists_ok

theorem endingIn (h : b.IsWritable) (text : String) : ∃ t, endingIn text b = .ok t := by
  obtain ⟨t, ht⟩ := h.plainText
  exact ⟨text ++ t, by rw [Scrutiny.endingIn, ht]; rfl⟩

theorem around (h : b.IsWritable) (before after : String) (d : Decimal) :
    ∃ t, Amount.around before after b d = .ok t := by
  obtain ⟨t, ht⟩ := h.endingIn after
  exact ⟨before ++ String.ofList d.text ++ t, by rw [Amount.around, ht]; rfl⟩

end Value.IsWritable

theorem Value.ne_null_of_asInteger {field : Option String} {w : Width} {v : Value} {n : Int}
    (h : v.asInteger field w = .ok n) : v ≠ .null := by
  rintro rfl
  cases h

theorem Value.ne_null_of_asDecimal {field : Option String} {v : Value} {d : Decimal}
    (h : v.asDecimal field = .ok d) : v ≠ .null := by
  rintro rfl
  have hread : Decimal.read? "null".toList = none := by decide
  simp only [asDecimal, wording] at h
  cases h

namespace Focus
variable {f : Focus}

theorem reports_report (suffix text : String) (rejected : Value) (args : List Value) :
    (f.report suffix text rejected args).Reports :=
  ⟨_, rfl⟩

theorem judgeWhole_decides {w : Width} {fails : Value → Except Fault Bool} {suffix : String}
    {text : Except Fault String} {bounds : List Value} {n : Int} {failed : Prop}
    [Decidable failed] (hread : f.value.asInteger f.field w = .ok n)
    (hfails : fails (.int n) = .ok (decide failed)) (htext : ∃ t, text = .ok t) :
    (f.judgeWhole w fails suffix text bounds).Decides (¬ failed) := by
  obtain ⟨t, rfl⟩ := htext
  rw [judgeWhole, judgePresent_of_ne (Value.ne_null_of_asInteger hread), hread]
  refine Verdict.decides_by hfails (fun h => ?_) fun h => Verdict.decides_pass h
  exact (reports_report suffix t f.value _).decides (not_not.2 h)

theorem judgeAmount_decides {fails : Decimal → Except Fault Bool} {suffix : Except Fault String}
    {text : Decimal → Except Fault String} {bounds : List Value} {d : Decimal} {failed : Prop}
    [Decidable failed] (hread : f.value.asDecimal f.field = .ok d)
    (hfails : fails d = .ok (decide failed)) (hsuffix : failed → ∃ s, suffix = .ok s)
    (htext : failed → ∃ t, text d = .ok t) :
    (f.judgeAmount fails suffix text bounds).Decides (¬ failed) := by
  rw [judgeAmount, judgePresent_of_ne (Value.ne_null_of_asDecimal hread), hread]
  refine Verdict.decides_by hfails (fun h => ?_) fun h => Verdict.decides_pass h
  obtain ⟨s, hs⟩ := hsuffix h
  obtain ⟨t, ht⟩ := htext h
  rw [hs, ht]
  exact (reports_report s t f.value _).decides (not_not.2 h)

end Focus

namespace Whole
variable {f : Focus} {n : Int}

/-- What a rule demands of a number, if it compares numbers. -/
def condition? : Whole → Option (ℚ → Prop)
  | .between low high => some fun x => low.toRat ≤ x ∧ x ≤ high.toRat
  | .zeroOrGreater _ => some fun x => 0 ≤ x
  | .greaterThanZero _ => some fun x => 0 < x
  | .greaterThan _ b => some fun x => b.toRat < x
  | .greaterThanAt _ b _ => some fun x => b.toRat < x
  | .atLeast b => some fun x => b.toRat ≤ x
  | .notBelow b => some fun x => b ≠ .null → b.toRat ≤ x
  | .notAbove b => some fun x => b ≠ .null → x ≤ b.toRat
  | .sameAs _ => none
  | .multipleOf _ => none

theorem compares_int {b : Value} (hb : b.IsBound) (op : Comparison) (n : Int) :
    Value.compares op (.int n) b = .ok (decide (op.Relates n b.toRat)) := by
  rw [(Value.IsBound.int n).compares_relates hb op, Value.toRat_int]

theorem judgeBound_decides {w : Width} {b : Value} (hread : f.value.asInteger f.field w = .ok n)
    (hb : b.IsBound) (hw : b.IsWritable) (op : Comparison) (suffix text : String) :
    (f.judgeWhole w (fun n => Value.compares op n b) suffix (endingIn text b) [b]).Decides
      (¬ op.Relates n b.toRat) :=
  Focus.judgeWhole_decides hread (compares_int hb op n) (hw.endingIn text)

theorem judgeFixed_decides {w : Width} (hread : f.value.asInteger f.field w = .ok n)
    (op : Comparison) (k : Int) (suffix text : String) (bounds : List Value) :
    (f.judgeWhole w (fun n => Value.compares op n (.int k)) suffix (.ok text) bounds).Decides
      (¬ op.Relates n k) := by
  have hfails := compares_int (.int k) op n
  rw [Value.toRat_int] at hfails
  exact Focus.judgeWhole_decides hread hfails ⟨text, rfl⟩

theorem judgeAt_decides {name : String} {b index : Value}
    (hread : f.value.asInteger f.field .long = .ok n) (hb : b.IsBound) (hw : b.IsWritable)
    (hi : index.IsWritable) : ((greaterThanAt name b index).judge f).Decides (b.toRat < n) := by
  obtain ⟨place, hplace⟩ := hi.plainText
  obtain ⟨t, ht⟩ := hw.endingIn "must be greater than "
  rw [judge, Focus.judgePresent_of_ne (Value.ne_null_of_asInteger hread), hread, hplace, ht]
  refine Verdict.decides_by (compares_int hb .atMost n) (fun h => ?_) fun h => ?_
  · exact (Focus.reports_report _ t f.value _).decides (not_lt.2 h)
  · exact Verdict.decides_pass (not_le.1 h)

theorem judge_decides {r : Whole} {p : ℚ → Prop} (hread : f.value.asInteger f.field r.width = .ok n)
    (h : r.Proper) (hw : ∀ b ∈ r.bounds, b.IsWritable) (hp : r.condition? = some p) :
    (r.judge f).Decides (p n) := by
  cases r with
  | between low high =>
    have hl := h.required (b := low) (by simp [bounds])
    have hh := h.required (b := high) (by simp [bounds])
    obtain ⟨a, ha⟩ := (hw low (by simp [bounds])).plainText
    obtain ⟨b, hb⟩ := (hw high (by simp [bounds])).plainText
    have hfails := (Value.IsBound.int n).outside hl hh
    rw [Value.toRat_int] at hfails
    obtain rfl := Option.some.inj hp
    rw [judge]
    refine (Focus.judgeWhole_decides hread hfails ?_).congr (by simp [not_or])
    rw [ha, hb]
    exact ⟨_, rfl⟩
  | zeroOrGreater w =>
    obtain rfl := Option.some.inj hp
    cases w with
    | short =>
      exact (judgeFixed_decides hread .less 0 _ _ _).congr (by simp [Comparison.Relates])
    | long =>
      exact (judgeFixed_decides hread .less 0 _ _ _).congr (by simp [Comparison.Relates])
  | greaterThanZero w =>
    -- An integer below one is not above zero.
    have hone : ¬ Comparison.less.Relates n (1 : Int) ↔ (0 : ℚ) < n := by
      rw [Comparison.Relates, not_lt, Int.cast_le, Int.cast_pos]
      omega
    obtain rfl := Option.some.inj hp
    exact (judgeFixed_decides hread .less 1 _ _ _).congr hone
  | greaterThan w b =>
    obtain rfl := Option.some.inj hp
    exact (judgeBound_decides hread (h.required List.mem_cons_self) (hw b List.mem_cons_self)
      .atMost _ _).congr not_le
  | greaterThanAt name b index =>
    obtain rfl := Option.some.inj hp
    exact judgeAt_decides hread (h.required List.mem_cons_self) (hw b List.mem_cons_self)
      (hw index (by simp [bounds]))
  | atLeast b =>
    obtain rfl := Option.some.inj hp
    exact (judgeBound_decides hread (h.required List.mem_cons_self) (hw b List.mem_cons_self)
      .less _ _).congr not_lt
  | sameAs => cases hp
  | multipleOf => cases hp
  | notBelow b =>
    obtain rfl := Option.some.inj hp
    refine Verdict.Decides.unlessNull fun hn => ?_
    exact (judgeBound_decides hread (h.given List.mem_cons_self hn) (hw b List.mem_cons_self)
      .less _ _).congr not_lt
  | notAbove b =>
    obtain rfl := Option.some.inj hp
    refine Verdict.Decides.unlessNull fun hn => ?_
    exact (judgeBound_decides hread (h.given List.mem_cons_self hn) (hw b List.mem_cons_self)
      .greater _ _).congr not_lt

end Whole

namespace Amount
variable {f : Focus} {d : Decimal}

/-- What a rule demands of a number, if it compares numbers. A missing bound demands nothing. -/
def condition? : Amount → Option (ℚ → Prop)
  | .positive => some fun x => 0 < x
  | .zeroOrPositive => some fun x => 0 ≤ x
  | .notBelow b => some fun x => b ≠ .null → b.toRat ≤ x
  | .notAbove b => some fun x => b ≠ .null → x ≤ b.toRat
  | .between low high =>
    some fun x => low ≠ .null → high ≠ .null → low.toRat ≤ x ∧ x ≤ high.toRat
  | .scaleAtMost _ => none
  | .orderedAmounts .. => none
  | .orderedNumbers .. => none

theorem judgeBound_decides {b : Value} (hread : f.value.asDecimal f.field = .ok d)
    (hb : b.IsBound) (hw : b.IsWritable) (op : Comparison) (suffix before after : String) :
    (f.judgeAmount (fun d => Value.compares op (.decimal d) b) (.ok suffix)
      (around before after b) [b]).Decides (¬ op.Relates d.toRat b.toRat) :=
  Focus.judgeAmount_decides hread ((Value.IsBound.of_asDecimal hread).compares_relates hb op)
    (fun _ => ⟨suffix, rfl⟩) fun _ => hw.around before after d

theorem judgeZero_decides (hread : f.value.asDecimal f.field = .ok d) (op : Comparison)
    (suffix text : String) (bounds : List Value) :
    (f.judgeAmount (fun d => Value.compares op (.decimal d) (.int 0)) (.ok suffix)
      (fun _ => .ok text) bounds).Decides (¬ op.Relates d.toRat 0) := by
  have hfails := (Value.IsBound.of_asDecimal hread).compares_relates (.int 0) op
  rw [Value.toRat_int, Int.cast_zero] at hfails
  exact Focus.judgeAmount_decides hread hfails (fun _ => ⟨suffix, rfl⟩) fun _ => ⟨text, rfl⟩

theorem judge_decides {r : Amount} {p : ℚ → Prop} (hread : f.value.asDecimal f.field = .ok d)
    (h : r.Proper) (hw : ∀ b ∈ r.bounds, b.IsWritable) (hp : r.condition? = some p) :
    (r.judge f).Decides (p d.toRat) := by
  cases r with
  | positive =>
    obtain rfl := Option.some.inj hp
    exact (judgeZero_decides hread .atMost _ _ _).congr not_le
  | zeroOrPositive =>
    obtain rfl := Option.some.inj hp
    exact (judgeZero_decides hread .less _ _ _).congr not_lt
  | notBelow b =>
    obtain rfl := Option.some.inj hp
    refine Verdict.Decides.unlessNull fun hn => ?_
    exact (judgeBound_decides hread (h.given List.mem_cons_self hn) (hw b List.mem_cons_self)
      .less _ _ _).congr not_lt
  | notAbove b =>
    obtain rfl := Option.some.inj hp
    refine Verdict.Decides.unlessNull fun hn => ?_
    exact (judgeBound_decides hread (h.given List.mem_cons_self hn) (hw b List.mem_cons_self)
      .greater _ _ _).congr not_lt
  | between low high =>
    have hlm : low ∈ (between low high).bounds := by simp [bounds]
    have hhm : high ∈ (between low high).bounds := by simp [bounds]
    obtain rfl := Option.some.inj hp
    refine Verdict.Decides.unlessNull fun hln => Verdict.Decides.unlessNull fun hhn => ?_
    have hfails := (Value.IsBound.of_asDecimal hread).outside (h.given hlm hln) (h.given hhm hhn)
    obtain ⟨t, ht⟩ := (hw low hlm).around "amount " " must be between " d
    obtain ⟨t', ht'⟩ := (hw high hhm).endingIn " and "
    rw [Value.toRat_decimal] at hfails
    refine (Focus.judgeAmount_decides hread hfails (fun _ => ⟨_, rfl⟩) fun _ => ?_).congr
      (by simp [not_or])
    rw [ht, ht']
    exact ⟨_, rfl⟩
  | scaleAtMost => cases hp
  | orderedAmounts => cases hp
  | orderedNumbers => cases hp

end Amount

end Scrutiny
