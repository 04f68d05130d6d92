import Scrutiny.Proofs.Rule.Families

/-!
# Multiples

The rule on multiples asks whether an integer is a multiple of the number and not below it. For a
positive number these are the positive multiples. A negative number is not below any of its own
negative multiples, so that the order is the wrong way round for it: the number itself passes, with
zero and all multiples above zero, while twice the number does not.
-/

set_option autoImplicit false

namespace Scrutiny

/-- An integer that a rule is given, as which a truth value counts. -/
inductive Value.CountsAs : Value → Int → Prop
  | int (m : Int) : CountsAs (.int m) m
  | bool (b : Bool) : CountsAs (.bool b) b.toNat

namespace Value.CountsAs
variable {b : Value} {m : Int}

theorem isBound (hb : b.CountsAs m) : b.IsBound := by
  cases hb with
  | int m => exact .int m
  | bool b => exact .bool b

theorem number? (hb : b.CountsAs m) : b.number? = some (.ofInt m) := by
  cases hb <;> rfl

theorem less (hb : b.CountsAs m) (n : Int) :
    (Value.int n).less b = .ok (decide (n < m)) := by
  have hc := Whole.compares_int hb.isBound .less n
  rw [toRat, hb.number?, Option.map_some, Option.getD_some, Decimal.toRat_ofInt] at hc
  change Value.compares .less (.int n) b = _
  simpa [Comparison.Relates] using hc

theorem equal_zero (hb : b.CountsAs m) (hm : m ≠ 0) : b.equal (.int 0) = .ok false := by
  rw [hb.isBound.equal_eq (.int 0) hb.number? rfl, equalNumbers]
  have habs : m.natAbs ≠ 0 := Int.natAbs_ne_zero.2 hm
  cases hs : decide (m < 0) <;>
    simp [Decimal.ofInt, Decimal.isSignaling, Decimal.compare?, Decimal.Sign.flip, habs, hs]

theorem isMultipleOf (hb : b.CountsAs m) (n : Int) :
    (Value.int n).isMultipleOf b = .ok (decide (m ∣ n)) := by
  have hmod : (n % m == 0) = decide (m ∣ n) := by
    rw [Bool.eq_iff_iff, beq_iff_eq, decide_eq_true_eq, Int.dvd_iff_emod_eq_zero]
  rw [← hmod]
  cases hb <;> rfl

theorem misses (hb : b.CountsAs m) (n : Int) :
    (do if ← (Value.int n).less b then return true
        else return !(← (Value.int n).isMultipleOf b)) =
      (.ok (decide (n < m ∨ ¬ m ∣ n)) : Except Fault Bool) := by
  rw [hb.less, hb.isMultipleOf]
  by_cases hlt : n < m <;> simp [hlt, bind, Except.bind, pure, Except.pure]

theorem plainText_of_isLong (hb : b.CountsAs m) (hm : IsLong m) :
    b.plainText = .error .wrongValue := by
  cases hb with
  | int m => exact Value.plainText_of_isLong hm
  | bool b => cases b <;> exact absurd hm (by decide)

theorem isWritable (hb : b.CountsAs m) (hm : ¬ IsLong m) : b.IsWritable := by
  cases hb with
  | int m => exact (Value.Gives.int m).isWritable hm
  | bool b =>
    rintro ⟨k, hk, -⟩
    cases hk

end Value.CountsAs

theorem positive_multiple_iff {m n : Int} (hm : 0 < m) :
    ¬ (n < m ∨ ¬ m ∣ n) ↔ ∃ k, 1 ≤ k ∧ n = k * m := by
  rw [not_or, not_lt, not_not]
  constructor
  · rintro ⟨hle, k, rfl⟩
    rw [Int.mul_comm] at hle ⊢
    exact ⟨k, (le_mul_iff_one_le_left hm).1 hle, rfl⟩
  · rintro ⟨k, hk, rfl⟩
    exact ⟨(le_mul_iff_one_le_left hm).2 hk, Int.dvd_mul_left k m⟩

theorem negative_multiple_iff {m n : Int} (hm : m < 0) :
    ¬ (n < m ∨ ¬ m ∣ n) ↔ ∃ k, k ≤ 1 ∧ n = k * m := by
  have hle (k : Int) : m ≤ k * m ↔ k ≤ 1 := by
    have h := mul_le_mul_right_of_neg (a := 1) (b := k) hm
    rwa [one_mul] at h
  rw [not_or, not_lt, not_not]
  constructor
  · rintro ⟨hn, k, rfl⟩
    rw [Int.mul_comm] at hn ⊢
    exact ⟨k, (hle k).1 hn, rfl⟩
  · rintro ⟨k, hk, rfl⟩
    exact ⟨(hle k).2 hk, Int.dvd_mul_left k m⟩

theorem Focus.judgeWhole_of_fails {f : Focus} {w : Width} {fails : Value → Except Fault Bool}
    {suffix : String} {text : Except Fault String} {bounds : List Value} {n : Int} {failed : Bool}
    (hread : f.value.asInteger f.field w = .ok n) (hfails : fails (.int n) = .ok failed) :
    f.judgeWhole w fails suffix text bounds =
      if failed then (do f.report suffix (← text) f.value (.int n :: bounds)) else .pass := by
  rw [judgeWhole, judgePresent_of_ne (Value.ne_null_of_asInteger hread), hread]
  change (do if ← fails (.int n) then _ else _) = _
  rw [hfails]
  rfl

section
variable {f : Focus} {b : Value} {m n : Int} (hb : b.CountsAs m) (hm : m ≠ 0)
  (hread : f.value.asInteger f.field .short = .ok n)
include hb hm hread

theorem Whole.judge_multipleOf :
    (multipleOf b).judge f = if n < m ∨ ¬ m ∣ n then (do
      f.report "not.in.multiples.of.specified.number" (← endingIn "must be multiples of " b)
        f.value [.int n, b]) else .pass := by
  rw [judge, Focus.judgePresent_of_ne (Value.ne_null_of_asInteger hread), hb.equal_zero hm]
  simp only [bind, Except.bind, Bool.false_eq_true, if_false]
  rw [Focus.judgeWhole_of_fails hread (hb.misses n)]
  simp only [decide_eq_true_eq]
  rfl

theorem Whole.multipleOf_missed (hmiss : n < m ∨ ¬ m ∣ n) :
    if IsLong m then (multipleOf b).judge f = .error .wrongValue
    else ((multipleOf b).judge f).Reports := by
  rw [judge_multipleOf hb hm hread, if_pos hmiss]
  by_cases hl : IsLong m
  · rw [if_pos hl, endingIn, hb.plainText_of_isLong hl]
    rfl
  · obtain ⟨t, ht⟩ := (hb.isWritable hl).endingIn "must be multiples of "
    rw [if_neg hl, ht]
    exact Focus.reports_report _ _ _ _

theorem Whole.multipleOf_pass_iff :
    (multipleOf b).judge f = .pass ↔ ¬ (n < m ∨ ¬ m ∣ n) := by
  constructor
  · intro hp hmiss
    have hout := multipleOf_missed hb hm hread hmiss
    rw [hp] at hout
    split at hout
    · cases hout
    · exact Verdict.not_reports_pass hout
  · intro hmeets
    rw [judge_multipleOf hb hm hread, if_neg hmeets]

end

/-- For a number that is not zero the rule passes the multiples that are not below the number: the
positive multiples of a positive number, but the number itself, zero and the multiples of the other
sign for a negative one. What does not pass is reported, unless the number is too long for the
report. -/
theorem multiples_not_below (checkers : Checkers) (f : Focus) {b : Value} {m n : Int}
    (hb : b.CountsAs m) (hm : m ≠ 0) (hread : f.value.asInteger f.field .short = .ok n) :
    let verdict := (Rule.whole (.multipleOf b)).judge checkers f
    (0 < m → (verdict = .pass ↔ ∃ k, 1 ≤ k ∧ n = k * m)) ∧
    (m < 0 → (verdict = .pass ↔ ∃ k, k ≤ 1 ∧ n = k * m)) ∧
    (verdict ≠ .pass → if IsLong m then verdict = .error .wrongValue else verdict.Reports) := by
  have hpass := Whole.multipleOf_pass_iff hb hm hread
  refine ⟨fun hpos => ?_, fun hneg => ?_, fun hne => ?_⟩
  · exact hpass.trans (positive_multiple_iff hpos)
  · exact hpass.trans (negative_multiple_iff hneg)
  · exact Whole.multipleOf_missed hb hm hread (not_not.1 (mt hpass.2 hne))

theorem multiples_not_below_twelve :
    let checkers : Checkers := fun _ _ => .ok .valid
    let f : Focus := { field := some "term", value := .text "+12" }
    (Rule.whole (.multipleOf (.int 4))).judge checkers f = .pass ∧
    (Rule.whole (.multipleOf (.bool true))).judge checkers f = .pass ∧
    ((Rule.whole (.multipleOf (.int 5))).judge checkers f).Reports := by
  intro checkers f
  have hread : f.value.asInteger f.field .short = .ok 12 := by rfl
  have h {b : Value} {m : Int} (hb : b.CountsAs m) (hm : 0 < m) :=
    multiples_not_below checkers f hb hm.ne' hread
  refine ⟨?_, ?_, ?_⟩
  · exact ((h (.int 4) (by decide)).1 (by decide)).2 ⟨3, by decide⟩
  · exact ((h (.bool true) (by decide)).1 (by decide)).2 ⟨12, by decide⟩
  · have hfive := h (.int 5) (by decide)
    have hnot : (Rule.whole (.multipleOf (.int 5))).judge checkers f ≠ .pass := by
      intro hp
      obtain ⟨k, -, hk⟩ := (hfive.1 (by decide)).1 hp
      omega
    simpa [show ¬ IsLong 5 by decide] using hfive.2.2 hnot

/-- Twice a negative number is reported, while zero and the number with the other sign pass. -/
theorem negative_multiples_turned :
    let checkers : Checkers := fun _ _ => .ok .valid
    let judge (n : Int) := (Rule.whole (.multipleOf (.int (-4)))).judge checkers
      { field := some "term", value := .int n }
    ((-8 : Int) = 2 * (-4) ∧ (judge (-8)).Reports) ∧ judge 0 = .pass ∧
    judge 4 = .pass ∧ ¬ ∃ k : Int, 1 ≤ k ∧ 4 = k * (-4) := by
  intro checkers judge
  have hjudge (n : Int) (hread : (Value.int n).asInteger (some "term") .short = .ok n) :=
    Whole.judge_multipleOf (f := { field := some "term", value := .int n }) (.int (-4)) (by decide)
      hread
  refine ⟨⟨by decide, ?_⟩, ?_, ?_, ?_⟩
  · exact ⟨_, (hjudge (-8) rfl).trans (if_pos (by decide))⟩
  · exact (hjudge 0 rfl).trans (if_neg (by decide))
  · exact (hjudge 4 rfl).trans (if_neg (by decide))
  · rintro ⟨k, hk, hkm⟩
    omega

end Scrutiny
