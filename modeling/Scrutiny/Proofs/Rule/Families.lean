import Scrutiny.Proofs.Rule.Deciding
import Scrutiny.Proofs.Value.Numbers

/-!
# Three families of rules on numbers

Integers of the short width can be judged by rules on integers of either width and by rules on
amounts. Rules that stand for each other in these families give the same verdict, with whatever
comparison they are written, and a range is left exactly where one of its two bounds is.
-/

set_option autoImplicit false

namespace Scrutiny

open Text

/-- An integer as a bound: as it is, or as a decimal of the same value. -/
inductive Value.Gives : Value → Int → Prop
  | int (n : Int) : Gives (.int n) n
  | decimal {s : Bool} {c : Nat} {e n : Int} (h : Decimal.toRat (.finite s c e) = n) :
      Gives (.decimal (.finite s c e)) n

namespace Value.Gives
variable {v : Value} {n : Int}

theorem isBound (h : v.Gives n) : v.IsBound := by
  cases h with
  | int n => exact .int n
  | decimal h => exact .decimal _ _ _

theorem ne_null (h : v.Gives n) : v ≠ .null := by
  cases h <;> simp

theorem toRat_eq (h : v.Gives n) : v.toRat = n := by
  cases h with
  | int n => exact Value.toRat_int n
  | decimal h => exact h

theorem isWritable (h : v.Gives n) (hn : ¬ IsLong n) : v.IsWritable := by
  rintro ⟨m, hm, hl⟩
  cases h with
  | int n =>
    obtain rfl := List.mem_singleton.1 hm
    exact hn hl
  | decimal h => cases hm

end Value.Gives

def AreFit (bs : List Value) : Prop := ∀ b ∈ bs, ∃ m, b.Gives m ∧ ¬ IsLong m

namespace AreFit
variable {bs : List Value}

theorem nil : AreFit [] := by
  intro b hb
  cases hb

theorem cons {b : Value} {m : Int} (hb : b.Gives m) (hm : ¬ IsLong m) (h : AreFit bs) :
    AreFit (b :: bs) := by
  intro b' hb'
  rcases List.mem_cons.1 hb' with rfl | hb'
  · exact ⟨m, hb, hm⟩
  · exact h b' hb'

theorem areBounds (h : AreFit bs) (optional : Bool) : AreBounds optional bs := by
  intro b hb
  obtain ⟨m, hm, -⟩ := h b hb
  exact .inl hm.isBound

theorem isWritable (h : AreFit bs) : ∀ b ∈ bs, b.IsWritable := by
  intro b hb
  obtain ⟨m, hm, hl⟩ := h b hb
  exact hm.isWritable hl

end AreFit

theorem Value.asInteger_wide {field : Option String} {v : Value} {n : Int}
    (h : v.asInteger field .short = .ok n) (w : Width) : v.asInteger field w = .ok n := by
  cases w
  · exact h
  · exact asInteger_long h

section
variable {checkers : Checkers} {f : Focus} {n : Int}

theorem Whole.decides_of_fit {r : Whole} {p : ℚ → Prop} {q : Prop}
    (h : f.value.asInteger f.field .short = .ok n) (hb : AreFit r.bounds)
    (hp : r.condition? = some p) (hq : p n ↔ q) :
    ((Rule.whole r).judge checkers f).Decides q := by
  have hd := Whole.judge_decides (Value.asInteger_wide h r.width) (hb.areBounds _) hb.isWritable hp
  exact hd.congr hq

theorem Amount.decides_of_fit {r : Amount} {p : ℚ → Prop} {q : Prop}
    (h : f.value.asInteger f.field .short = .ok n) (hb : AreFit r.bounds)
    (hp : r.condition? = some p) (hq : p n ↔ q) :
    ((Rule.amount r).judge checkers f).Decides q := by
  obtain ⟨d, hread, hd⟩ := Value.asDecimal_of_asInteger h
  rw [← hd] at hq
  exact (Amount.judge_decides hread (hb.areBounds _) hb.isWritable hp).congr hq

end

/-- Rules that stand for each other, with what they ask of an integer. -/
inductive Counterparts : (Int → Prop) → List Rule → Prop
  | positive : Counterparts (fun n => 0 < n)
      [.whole (.greaterThanZero .short), .whole (.greaterThanZero .long), .amount .positive]
  | zeroOrPositive : Counterparts (fun n => 0 ≤ n)
      [.whole (.zeroOrGreater .short), .whole (.zeroOrGreater .long), .amount .zeroOrPositive]
  | above {b index : Int} (name : String) (hb : ¬ IsLong b) (hi : ¬ IsLong index) :
      Counterparts (fun n => b < n)
        [.whole (.greaterThan .short (.int b)), .whole (.greaterThan .long (.int b)),
          .whole (.greaterThanAt name (.int b) (.int index))]
  | notBelow {b : Int} {low : Value} (hb : ¬ IsLong b) (hl : low.Gives b) :
      Counterparts (fun n => b ≤ n)
        [.whole (.notBelow (.int b)), .whole (.atLeast (.int b)), .amount (.notBelow low)]
  | notAbove {b : Int} {high : Value} (hb : ¬ IsLong b) (hh : high.Gives b) :
      Counterparts (fun n => n ≤ b) [.whole (.notAbove (.int b)), .amount (.notAbove high)]
  | between {a b : Int} {low high : Value} (ha : ¬ IsLong a) (hb : ¬ IsLong b)
      (hl : low.Gives a) (hh : high.Gives b) :
      Counterparts (fun n => a ≤ n ∧ n ≤ b)
        [.whole (.between (.int a) (.int b)), .amount (.between low high)]

theorem Counterparts.decide {f : Focus} {n : Int} {p : Int → Prop} {rs : List Rule}
    (hc : Counterparts p rs) (checkers : Checkers)
    (h : f.value.asInteger f.field .short = .ok n) :
    ∀ r ∈ rs, (r.judge checkers f).Decides (p n) := by
  cases hc with
  | positive =>
    rw [List.forall_mem_cons, List.forall_mem_cons, List.forall_mem_singleton]
    exact ⟨Whole.decides_of_fit h .nil rfl Int.cast_pos,
      Whole.decides_of_fit h .nil rfl Int.cast_pos,
      Amount.decides_of_fit h .nil rfl Int.cast_pos⟩
  | zeroOrPositive =>
    rw [List.forall_mem_cons, List.forall_mem_cons, List.forall_mem_singleton]
    exact ⟨Whole.decides_of_fit h .nil rfl Int.cast_nonneg_iff,
      Whole.decides_of_fit h .nil rfl Int.cast_nonneg_iff,
      Amount.decides_of_fit h .nil rfl Int.cast_nonneg_iff⟩
  | @above b index name hb hi =>
    have hfit : AreFit [.int b] := .cons (.int b) hb .nil
    have hq : (Value.int b).toRat < n ↔ b < n := by rw [Value.toRat_int, Int.cast_lt]
    rw [List.forall_mem_cons, List.forall_mem_cons, List.forall_mem_singleton]
    exact ⟨Whole.decides_of_fit h hfit rfl hq, Whole.decides_of_fit h hfit rfl hq,
      Whole.decides_of_fit h (.cons (.int b) hb (.cons (.int index) hi .nil)) rfl hq⟩
  | @notBelow b low hb hl =>
    have hfit : AreFit [.int b] := .cons (.int b) hb .nil
    have hq {v : Value} (hv : v.Gives b) : v.toRat ≤ n ↔ b ≤ n := by rw [hv.toRat_eq, Int.cast_le]
    have hopt {v : Value} (hv : v.Gives b) : (v ≠ .null → v.toRat ≤ n) ↔ b ≤ n := by
      simp only [hv.ne_null, ne_eq, not_false_eq_true, true_imp_iff, hq hv]
    rw [List.forall_mem_cons, List.forall_mem_cons, List.forall_mem_singleton]
    exact ⟨Whole.decides_of_fit h hfit rfl (hopt (.int b)),
      Whole.decides_of_fit h hfit rfl (hq (.int b)),
      Amount.decides_of_fit h (.cons hl hb .nil) rfl (hopt hl)⟩
  | @notAbove b high hb hh =>
    have hopt {v : Value} (hv : v.Gives b) : (v ≠ .null → n ≤ v.toRat) ↔ n ≤ b := by
      simp only [hv.ne_null, ne_eq, not_false_eq_true, true_imp_iff, hv.toRat_eq, Int.cast_le]
    rw [List.forall_mem_cons, List.forall_mem_singleton]
    exact ⟨Whole.decides_of_fit h (.cons (.int b) hb .nil) rfl (hopt (.int b)),
      Amount.decides_of_fit h (.cons hh hb .nil) rfl (hopt hh)⟩
  | @between a b low high ha hb hl hh =>
    rw [List.forall_mem_cons, List.forall_mem_singleton]
    refine ⟨Whole.decides_of_fit h (.cons (.int a) ha (.cons (.int b) hb .nil)) rfl ?_,
      Amount.decides_of_fit h (.cons hl ha (.cons hh hb .nil)) rfl ?_⟩
    · rw [Value.toRat_int, Value.toRat_int, Int.cast_le, Int.cast_le]
    · simp only [hl.ne_null, hh.ne_null, ne_eq, not_false_eq_true, true_imp_iff, hl.toRat_eq,
        hh.toRat_eq, Int.cast_le]

theorem Value.plainText_of_isLong {n : Int} (h : IsLong n) :
    (Value.int n).plainText = .error .wrongValue := by
  have hl : ¬ (naturalText n.natAbs).length ≤ digitLimit := Nat.not_le.2 h
  have hnone : integerText? n = none := by rw [integerText?, if_neg hl]
  simp only [plainText, plain, shown, integer, hnone]
  rfl

theorem Whole.judgeAt_long {f : Focus} {n b index : Int} (name : String)
    (h : f.value.asInteger f.field .long = .ok n) (hi : IsLong index) :
    (b < n → (greaterThanAt name (.int b) (.int index)).judge f = .pass) ∧
    (n ≤ b → (greaterThanAt name (.int b) (.int index)).judge f = .error .wrongValue) := by
  have hfails : (Value.int n).atMost (.int b) = .ok (decide (n ≤ b)) := by
    have hc := Whole.compares_int (.int b) .atMost n
    rw [Value.toRat_int] at hc
    change Value.compares .atMost (.int n) (.int b) = _
    simpa [Comparison.Relates] using hc
  rw [judge, Focus.judgePresent_of_ne (Value.ne_null_of_asInteger h), h]
  constructor
  · intro hlt
    change (do if ← (Value.int n).atMost (.int b) then _ else _) = _
    rw [hfails, decide_eq_false (Int.not_le.2 hlt)]
    rfl
  · intro hle
    change (do if ← (Value.int n).atMost (.int b) then _ else _) = _
    rw [hfails, decide_eq_true hle, Value.plainText_of_isLong hi]
    rfl

def Rule.Rejects (checkers : Checkers) (f : Focus) (r : Rule) : Prop :=
  (r.judge checkers f).Reports

theorem Verdict.Decides.reports_either {v x y : Verdict} {p q : Prop} (h : v.Decides (p ∧ q))
    (hx : x.Decides p) (hy : y.Decides q) : v.Reports ↔ x.Reports ∨ y.Reports := by
  rw [h.reports_iff, hx.reports_iff, hy.reports_iff, not_and_or]

theorem Amount.orderedNumbers_decides {low high : Value} {a b : Int} (f : Focus)
    (hl : low.Gives a) (hh : high.Gives b) (ha : ¬ IsLong a) (hb : ¬ IsLong b) :
    ((orderedNumbers low high).judge f).Decides (a ≤ b) := by
  have hnull : (low.isNull || high.isNull) = false := by
    rw [Value.isNull_of_ne hl.ne_null, Value.isNull_of_ne hh.ne_null]
    rfl
  have hcompare : high.atLeast low = .ok (decide (a ≤ b)) := by
    have hc := hh.isBound.compares_relates hl.isBound .atLeast
    rw [hh.toRat_eq, hl.toRat_eq] at hc
    change Value.compares .atLeast high low = _
    simpa [Comparison.Relates] using hc
  obtain ⟨t, ht⟩ := (hl.isWritable ha).endingIn "The min number "
  obtain ⟨t', ht'⟩ := (hh.isWritable hb).endingIn " should less than max number "
  rw [judge, unlessOrdered, hnull, ht, ht']
  refine Verdict.decides_by hcompare (fun h => Verdict.decides_pass h) fun h => ?_
  exact Verdict.Reports.decides ⟨_, rfl⟩ h

/-- A value that is read as an integer of the short width is the same integer of the long width and
the same number as a decimal. Rules of the three families that stand for each other therefore decide
the same, a rule on a range rejects what one of its bounds rejects, and everything if its bounds are
rejected. -/
theorem families_agree (checkers : Checkers) (f : Focus) {n : Int}
    (h : f.value.asInteger f.field .short = .ok n) :
    f.value.asInteger f.field .long = .ok n ∧
    (∃ d, f.value.asDecimal f.field = .ok d ∧ d.toRat = n) ∧
    (∀ p rs, Counterparts p rs → ∀ r ∈ rs, (r.judge checkers f).Decides (p n)) ∧
    (∀ (name : String) (b index : Int), IsLong index →
      (b < n → (Rule.whole (.greaterThanAt name (.int b) (.int index))).judge checkers f = .pass) ∧
      (n ≤ b → (Rule.whole (.greaterThanAt name (.int b) (.int index))).judge checkers f =
        .error .wrongValue)) ∧
    ∀ (a b : Int) (low high : Value), ¬ IsLong a → ¬ IsLong b → low.Gives a → high.Gives b →
      (Rule.Rejects checkers f (.whole (.between (.int a) (.int b))) ↔
        Rule.Rejects checkers f (.whole (.notBelow (.int a))) ∨
        Rule.Rejects checkers f (.whole (.notAbove (.int b)))) ∧
      (Rule.Rejects checkers f (.amount (.between low high)) ↔
        Rule.Rejects checkers f (.amount (.notBelow low)) ∨
        Rule.Rejects checkers f (.amount (.notAbove high))) ∧
      ∀ (low' high' : Value), low'.Gives a → high'.Gives b →
        Rule.Rejects checkers f (.amount (.orderedNumbers low' high')) →
        Rule.Rejects checkers f (.whole (.between (.int a) (.int b))) ∧
        Rule.Rejects checkers f (.amount (.between low high)) := by
  refine ⟨Value.asInteger_long h, Value.asDecimal_of_asInteger h, ?_, ?_, ?_⟩
  · exact fun p rs hc => hc.decide checkers h
  · exact fun name b index hi => Whole.judgeAt_long name (Value.asInteger_long h) hi
  · intro a b low high ha hb hl hh
    have hbelow := (Counterparts.notBelow ha hl).decide checkers h
    have habove := (Counterparts.notAbove hb hh).decide checkers h
    have hbetween := (Counterparts.between ha hb hl hh).decide checkers h
    refine ⟨?_, ?_, fun low' high' hl' hh' hr => ?_⟩
    · exact (hbetween _ (by simp)).reports_either (hbelow _ (by simp)) (habove _ (by simp))
    · exact (hbetween _ (by simp)).reports_either (hbelow _ (by simp)) (habove _ (by simp))
    · -- No number is in a range whose bounds are not in order.
      have hempty : ¬ (a ≤ n ∧ n ≤ b) := fun hn =>
        (Amount.orderedNumbers_decides f hl' hh' ha hb).reports_iff.1 hr (hn.1.trans hn.2)
      exact ⟨(hbetween _ (by simp)).reports hempty, (hbetween _ (by simp)).reports hempty⟩

theorem families_agree_seven :
    let checkers : Checkers := fun _ _ => .ok .valid
    let f : Focus := { field := some "age", value := .text "+００７" }
    let low : Value := .decimal (.finite false 1 1)
    let high : Value := .decimal (.finite false 30 (-1))
    (∃ d, f.value.asDecimal f.field = .ok d ∧ d.toRat = (7 : Int)) ∧
    Rule.Rejects checkers f (.whole (.between (.int 10) (.int 3))) ∧
    Rule.Rejects checkers f (.amount (.between low high)) := by
  intro checkers f low high
  have hread : f.value.asInteger f.field .short = .ok 7 := by rfl
  have hl : low.Gives 10 := by
    refine .decimal ?_
    norm_num [Decimal.toRat, Decimal.withSign, Decimal.scaled]
  have hh : high.Gives 3 := by
    refine .decimal ?_
    norm_num [Decimal.toRat, Decimal.withSign, Decimal.scaled]
  obtain ⟨-, hdecimal, -, -, hranges⟩ := families_agree checkers f hread
  have h := hranges 10 3 low high (by decide) (by decide) hl hh
  exact ⟨hdecimal, h.2.2 low high hl hh ⟨_, rfl⟩⟩

end Scrutiny
