import Scrutiny.Proofs.Decimal.Places
import Scrutiny.Proofs.Rule.Deciding
import Scrutiny.Proofs.Value.Numbers

/-!
# Amounts by their numbers

What a rule on amounts says of a value is a matter of the number that the value stands for: in which
way the number is written makes no difference, and it is compared exactly. Only digits after the
point are counted after rounding, so that their count is right as long as none of them is lost.
-/

set_option autoImplicit false

namespace Scrutiny

open Text

/-- The same fault, or values that are related. -/
inductive Related {α β : Type} (R : α → β → Prop) : Except Fault α → Except Fault β → Prop
  | fault (e : Fault) : Related R (.error e) (.error e)
  | value {a : α} {b : β} (h : R a b) : Related R (.ok a) (.ok b)

namespace Related
variable {α β γ δ : Type} {R : α → β → Prop} {S : γ → δ → Prop}

theorem same (x : Except Fault α) : Related (fun a b => a = b) x x := by
  cases x with
  | error e => exact .fault e
  | ok a => exact .value rfl

theorem bind {x : Except Fault α} {y : Except Fault β} {k : α → Except Fault γ}
    {l : β → Except Fault δ} (h : Related R x y) (hk : ∀ a b, R a b → Related S (k a) (l b)) :
    Related S (x >>= k) (y >>= l) := by
  cases h with
  | fault e => exact .fault e
  | value h => exact hk _ _ h

end Related

/-- Verdicts of one kind: the same fault, or both pass, or both report with the same code. -/
def Verdict.Alike (v w : Verdict) : Prop :=
  Related (Option.Rel fun e e' => e.code = e'.code) v w

theorem Verdict.alike_pass : Alike pass pass := .value .none

abbrev TextsAlike (x y : Except Fault String) : Prop := Related (fun _ _ => True) x y

theorem Amount.around_alike (before after : String) (b : Value) (d d' : Decimal) :
    TextsAlike (around before after b d) (around before after b d') := by
  refine Related.bind (R := fun _ _ => True) (.value trivial) fun _ _ _ => ?_
  exact (Related.same (endingIn after b)).bind fun _ _ _ => .value trivial

theorem Focus.report_alike (f : Focus) (suffix : String) {text text' : String}
    {v w v' w' : Value} {args args' : List Value} :
    Verdict.Alike ((f.withValue v).report suffix text v' args)
      ((f.withValue w).report suffix text' w' args') :=
  .value (.some rfl)

theorem Focus.judgeAmount_alike {f : Focus} {v w : Value} {d d' : Decimal}
    {fails : Decimal → Except Fault Bool} {text : Decimal → Except Fault String}
    (hv : v.asDecimal f.field = .ok d) (hw : w.asDecimal f.field = .ok d')
    (hfails : fails d = fails d') (suffix : Except Fault String)
    (htext : TextsAlike (text d) (text d')) (bounds : List Value) :
    Verdict.Alike ((f.withValue v).judgeAmount fails suffix text bounds)
      ((f.withValue w).judgeAmount fails suffix text bounds) := by
  have hvn : (f.withValue v).value ≠ .null := Value.ne_null_of_asDecimal hv
  have hwn : (f.withValue w).value ≠ .null := Value.ne_null_of_asDecimal hw
  rw [judgeAmount, judgePresent_of_ne hvn, judgeAmount, judgePresent_of_ne hwn]
  change Related _ (v.asDecimal f.field >>= _) (w.asDecimal f.field >>= _)
  rw [hv, hw]
  change Related _ (fails d >>= _) (fails d' >>= _)
  rw [hfails]
  refine (Related.same (fails d')).bind ?_
  rintro failed _ rfl
  cases failed with
  | false => exact Verdict.alike_pass
  | true =>
    refine (Related.same suffix).bind ?_
    rintro s _ rfl
    exact htext.bind fun t t' _ => f.report_alike s

namespace Decimal
variable {d d' : Decimal} {k : Nat}

theorem scaleOf_eq_ok : d.scaleOf = .ok k ↔ d.scale = .ok k := by
  unfold scaleOf
  cases d.scale with
  | ok j => simp
  | error error => cases error <;> simp

theorem scaleOf_congr (h : d.isFinite = true) (h' : d'.isFinite = true) (he : d.toRat = d'.toRat) :
    d.scaleOf = d'.scaleOf := by
  cases d with
  | finite n c e =>
    cases d' with
    | finite m c' e' => rw [scaleOf, scale_congr he, scaleOf]
    | _ => cases h'
  | _ => cases h

theorem le_of_scaleOf (hk : d.scaleOf = .ok k) {j : Nat} (hj : HasPlaces d.toRat j) : k ≤ j := by
  have hs := scaleOf_eq_ok.1 hk
  cases d with
  | finite n c e => exact scale_le hs hj
  | infinite => cases hs
  | undefined n s p => cases s <;> cases hs

/-- A decimal of which no digit that counts is rounded off when it is reduced: it is in the working
range, or whole and not too large. -/
def KeepsPlaces (d : Decimal) : Prop :=
  IsWorking d.toRat ∨ HasPlaces d.toRat 0 ∧ ∃ k, d.scaleOf = .ok k

theorem keepsPlaces_iff (h : d.isFinite = true) : d.KeepsPlaces ↔
    ∃ k, d.scaleOf = .ok k ∧ IsLeast {j | HasPlaces d.toRat j} k := by
  cases d with
  | finite n c e =>
    constructor
    · rintro (hw | ⟨hwhole, k, hk⟩)
      · obtain ⟨k, hk, hleast⟩ := scale_working hw
        exact ⟨k, scaleOf_eq_ok.2 hk, hleast⟩
      · obtain rfl := Nat.le_zero.1 (le_of_scaleOf hk hwhole)
        exact ⟨0, hk, hwhole, fun j _ => Nat.zero_le j⟩
    · rintro ⟨k, hk, hleast⟩
      rcases working_of_scale (scaleOf_eq_ok.1 hk) hleast.1 with hw | hwhole
      · exact .inl hw
      · exact .inr ⟨hwhole, k, hk⟩
  | _ => cases h

end Decimal

theorem Value.isWritable_natCast {n : Nat} (h : n ≤ (-Decimal.leastExponent).toNat) :
    (Value.int n).IsWritable := by
  rintro ⟨m, hm, hl⟩
  obtain rfl := List.mem_singleton.1 hm
  have hlt : n < tenTo 7 := Nat.lt_of_le_of_lt h (by decide)
  have hcount : Decimal.digitCount n ≤ 7 := (Decimal.digitCount_le_iff (by decide)).2 hlt
  have hlimit : digitLimit < Decimal.digitCount n := hl
  unfold digitLimit at hlimit
  omega

namespace Amount
variable {f : Focus} {d : Decimal} {k s : Nat}

theorem scaleAtMost_decides (hread : f.value.asDecimal f.field = .ok d) (hk : d.scaleOf = .ok k)
    (s : Nat) : ((scaleAtMost (.int s)).judge f).Decides (k ≤ s) := by
  have hfails : (do (Value.int (← d.scaleOf)).greater (.int s)) =
      (.ok (decide (s < k)) : Except Fault Bool) := by
    have h := (Value.IsBound.int k).compares_relates (.int s) .greater
    rw [hk]
    change (Value.int k).compares .greater (.int s) = _
    simpa [Value.toRat_int, Comparison.Relates] using h
  -- What is reported is below the scale, so that its text is short enough.
  have hwritable (h : s < k) : (Value.int s).IsWritable :=
    Value.isWritable_natCast ((Nat.le_of_lt h).trans
      (Decimal.scale_le_least (Decimal.scaleOf_eq_ok.1 hk)))
  rw [judge]
  refine (Focus.judgeAmount_decides hread hfails (fun h => ?_) fun h => ?_).congr Nat.not_lt
  · exact (hwritable h).endingIn _
  · obtain ⟨t, ht⟩ := (hwritable h).around "value " " decimal place must not be more than " d
    exact ⟨t ++ " places", by rw [ht]; rfl⟩

theorem scaleAtMost_exact (hread : f.value.asDecimal f.field = .ok d) (hd : d.KeepsPlaces)
    (s : Nat) : ((scaleAtMost (.int s)).judge f).Decides (Decimal.HasPlaces d.toRat s) := by
  have hf := Value.isFinite_of_asDecimal hread
  obtain ⟨k, hk, hplaces, hleast⟩ := (Decimal.keepsPlaces_iff hf).1 hd
  refine (scaleAtMost_decides hread hk s).congr ⟨fun h => ?_, fun h => hleast h⟩
  exact hplaces.mono h

end Amount

/-- The scale is exact for every finite decimal of which no digit that counts is rounded off, and
for no other; it is never more than the places that are needed, and it is missing only beyond the
working range. A rule on the scale of the value in focus goes by it. -/
theorem scale_exact_unless_rounded (checkers : Checkers) (f : Focus) :
    (∀ d : Decimal, d.isFinite = true →
      (d.KeepsPlaces ↔ ∃ k, d.scaleOf = .ok k ∧ IsLeast {j | Decimal.HasPlaces d.toRat j} k) ∧
      (∀ k, d.scaleOf = .ok k → ∀ j, Decimal.HasPlaces d.toRat j → k ≤ j) ∧
      FailsBy d.scaleOf fun e => e = .numberTooLarge ∧ d.IsVast) ∧
    ∀ (d : Decimal) (s : Nat), f.value.asDecimal f.field = .ok d →
      (d.KeepsPlaces → ((Rule.amount (.scaleAtMost (.int s))).judge checkers f).Decides
        (Decimal.HasPlaces d.toRat s)) ∧
      ∀ k, d.scaleOf = .ok k →
        ((Rule.amount (.scaleAtMost (.int s))).judge checkers f).Decides (k ≤ s) := by
  refine ⟨fun d hd => ⟨?_, ?_, ?_⟩, fun d s hread => ⟨fun hk => ?_, fun k hk => ?_⟩⟩
  · exact Decimal.keepsPlaces_iff hd
  · exact fun k hk j hj => Decimal.le_of_scaleOf hk hj
  · exact Decimal.scaleOf_failsBy hd
  · exact Amount.scaleAtMost_exact hread hk s
  · exact Amount.scaleAtMost_decides hread hk s

theorem scale_exact_unless_rounded_price :
    let checkers : Checkers := fun _ _ => .ok .valid
    let f : Focus := { field := some "price", value := .text "12.3400" }
    (Rule.amount (.scaleAtMost (.int 2))).judge checkers f = .pass ∧
    ((Rule.amount (.scaleAtMost (.int 1))).judge checkers f).Reports := by
  intro checkers f
  have hread : f.value.asDecimal f.field = .ok (.finite false 123400 (-4)) := by rfl
  have hkeeps : Decimal.KeepsPlaces (.finite false 123400 (-4)) :=
    .inl ⟨123400, -4, Decimal.abs_toRat _ _ _, by decide, by decide, by decide⟩
  have hplaces (j : Nat) :
      Decimal.HasPlaces (Decimal.toRat (.finite false 123400 (-4))) j ↔ 2 ≤ j := by
    have hrat : Decimal.toRat (.finite false 123400 (-4)) = Decimal.scaled 1234 (-2) :=
      Decimal.scaled_tenTo 1234 2 (-4)
    rw [hrat]
    exact Decimal.hasPlaces_of_last (by decide) (-2) j
  have h := (scale_exact_unless_rounded checkers f).2
  refine ⟨((h _ 2 hread).1 hkeeps).passes ((hplaces 2).2 (by decide)), ?_⟩
  exact ((h _ 1 hread).1 hkeeps).reports fun hone => absurd ((hplaces 1).1 hone) (by decide)

/-- A digit that counts is rounded off, so that the scale is too small and the rule passes. -/
theorem rounded_places_unseen :
    let checkers : Checkers := fun _ _ => .ok .valid
    let d : Decimal := .finite false 100000000000000000000000000001 (-29)
    let f : Focus := { field := some "price", value := .decimal d }
    d.scaleOf = .ok 0 ∧ ¬ IsLeast {j | Decimal.HasPlaces d.toRat j} 0 ∧
    (Rule.amount (.scaleAtMost (.int 0))).judge checkers f = .pass ∧
    ¬ Decimal.HasPlaces d.toRat 0 := by
  intro checkers d f
  have hplaces : ¬ Decimal.HasPlaces d.toRat 0 := by
    have hrat : d.toRat = Decimal.scaled 100000000000000000000000000001 (-29) := rfl
    rw [hrat, Decimal.hasPlaces_of_last (by decide)]
    decide
  exact ⟨rfl, fun h => hplaces h.1, rfl, hplaces⟩

namespace Amount
variable {f : Focus} {v w b : Value} {d d' : Decimal}

theorem compares_alike (hd : (Value.decimal d).IsBound) (hd' : (Value.decimal d').IsBound)
    (hb : b.IsBound) (he : d.toRat = d'.toRat) (op : Comparison) :
    Value.compares op (.decimal d) b = Value.compares op (.decimal d') b := by
  rw [hd.compares_relates hb, hd'.compares_relates hb, Value.toRat_decimal, Value.toRat_decimal, he]

theorem unlessNull_alike {x y : Verdict} (h : b ≠ .null → x.Alike y) :
    (Verdict.unlessNull b x).Alike (Verdict.unlessNull b y) := by
  by_cases hb : b = .null
  · subst hb
    exact Verdict.alike_pass
  · rw [Verdict.unlessNull, Verdict.unlessNull, Value.isNull_of_ne hb]
    exact h hb

theorem judge_alike {r : Amount} (hr : (Rule.amount r).readsFocus = true) (h : r.Proper)
    (hv : v.asDecimal f.field = .ok d) (hw : w.asDecimal f.field = .ok d')
    (he : d.toRat = d'.toRat) : (r.judge (f.withValue v)).Alike (r.judge (f.withValue w)) := by
  have hd := Value.IsBound.of_asDecimal hv
  have hd' := Value.IsBound.of_asDecimal hw
  cases r with
  | positive =>
    have hfails := compares_alike hd hd' (.int 0) he .atMost
    exact Focus.judgeAmount_alike hv hw hfails _ (.value trivial) _
  | zeroOrPositive =>
    have hfails := compares_alike hd hd' (.int 0) he .less
    exact Focus.judgeAmount_alike hv hw hfails _ (.value trivial) _
  | notBelow b =>
    refine unlessNull_alike fun hn => ?_
    have hfails := compares_alike hd hd' (h.given List.mem_cons_self hn) he .less
    exact Focus.judgeAmount_alike hv hw hfails _ (around_alike _ _ b d d') _
  | notAbove b =>
    refine unlessNull_alike fun hn => ?_
    have hfails := compares_alike hd hd' (h.given List.mem_cons_self hn) he .greater
    exact Focus.judgeAmount_alike hv hw hfails _ (around_alike _ _ b d d') _
  | between low high =>
    refine unlessNull_alike fun hln => unlessNull_alike fun hhn => ?_
    have hl := h.given (b := low) (by simp [bounds]) hln
    have hh := h.given (b := high) (by simp [bounds]) hhn
    refine Focus.judgeAmount_alike hv hw ?_ _ ?_ _
    · rw [hd.outside hl hh, hd'.outside hl hh, Value.toRat_decimal, Value.toRat_decimal, he]
    · refine (around_alike _ _ low d d').bind fun t t' _ => ?_
      exact (Related.same (endingIn " and " high)).bind fun _ _ _ => .value trivial
  | scaleAtMost s =>
    have hscale := Decimal.scaleOf_congr (Value.isFinite_of_asDecimal hv)
      (Value.isFinite_of_asDecimal hw) he
    refine Focus.judgeAmount_alike hv hw ?_ _ ?_ _
    · rw [hscale]
    · exact (around_alike _ _ s d d').bind fun t t' _ => .value trivial
  | orderedAmounts => cases hr
  | orderedNumbers => cases hr

end Amount

/-- Two values that stand for the same number are judged alike by every rule on amounts, and apart
from the scale they are judged by comparing that number with the bounds. -/
theorem amounts_judged_by_number (checkers : Checkers) (f : Focus) {v w : Value} {x : ℚ}
    (hv : ∃ d, v.asDecimal f.field = .ok d) (hw : ∃ d, w.asDecimal f.field = .ok d)
    (hx : v.Denotes x) (hy : w.Denotes x) {r : Amount}
    (hr : (Rule.amount r).readsFocus = true) (hp : r.Proper) :
    ((Rule.amount r).judge checkers (f.withValue v)).Alike
      ((Rule.amount r).judge checkers (f.withValue w)) ∧
    ∀ p, r.condition? = some p → (∀ b ∈ r.bounds, b.IsWritable) →
      ((Rule.amount r).judge checkers (f.withValue v)).Decides (p x) := by
  obtain ⟨d, hd⟩ := hv
  obtain ⟨d', hd'⟩ := hw
  have hxd := (Value.denotes_iff hd x).1 hx
  have hxd' := (Value.denotes_iff hd' x).1 hy
  constructor
  · exact Amount.judge_alike hr hp hd hd' (hxd ▸ hxd')
  · intro p hcond hwritable
    subst hxd
    exact Amount.judge_decides (f := f.withValue v) hd hp hwritable hcond

theorem amounts_judged_by_number_price :
    let checkers : Checkers := fun _ _ => .ok .valid
    let f : Focus := { field := some "price" }
    let v : Value := .text " +1_05.0e-1 "
    let w : Value := .decimal (.finite false 105 (-1))
    let r : Amount := .notBelow (.decimal (.finite false 11 0))
    ((Rule.amount r).judge checkers (f.withValue v)).Alike
      ((Rule.amount r).judge checkers (f.withValue w)) ∧
    ((Rule.amount r).judge checkers (f.withValue v)).Reports := by
  intro checkers f v w r
  have hv : v.asDecimal f.field = .ok (.finite false 1050 (-2)) := by rfl
  have hw : w.asDecimal f.field = .ok (.finite false 105 (-1)) := by rfl
  have hx : v.Denotes (21 / 2) := by
    rw [Value.denotes_iff hv]
    norm_num [Decimal.toRat, Decimal.withSign, Decimal.scaled, zpow_neg]
  have hy : w.Denotes (21 / 2) := by
    rw [Value.denotes_iff hw]
    norm_num [Decimal.toRat, Decimal.withSign, Decimal.scaled, zpow_neg]
  have h := amounts_judged_by_number checkers f ⟨_, hv⟩ ⟨_, hw⟩ hx hy (r := r) rfl
    (.singleton (.decimal false 11 0))
  refine ⟨h.1, (h.2 _ rfl ?_).reports ?_⟩
  · intro b hb
    obtain rfl := List.mem_singleton.1 hb
    rintro ⟨n, hn, -⟩
    cases hn
  · intro hle
    have hle := hle (by simp)
    norm_num [Value.toRat_decimal, Decimal.toRat, Decimal.withSign, Decimal.scaled] at hle

end Scrutiny
