import Scrutiny.Proofs.Rule.Deciding
import Scrutiny.Proofs.Value.Blankness

/-!
# Parameters that exclude each other

Two rules want the focused parameter to be blank while another one is given. They pass just that, and
a focus that is absent and overlooked. All else is reported: both given, as is meant, but also another
parameter that is blank, with which there is nothing to exclude. The only focus that passes next to
one of these is an absent one, if that is overlooked or the other is a text of blanks.
-/

set_option autoImplicit false

namespace Scrutiny

/-- The focus is blank while the other is given; an absent one may stand beside any text. -/
def Focus.GivesWay (f : Focus) (other : Value) : Prop :=
  f.value = .null ∧ other ≠ .null ∨ f.value.Blank ∧ ¬ other.Blank

theorem Value.isNull_iff {v : Value} : v.isNull = true ↔ v = .null := by
  cases v <;> simp [isNull]

namespace Focus
variable {f : Focus} {other : Value}

theorem blankWhileGiven_eq_ok {b : Bool} (h : f.blankWhileGiven other = .ok b) :
    b = true ↔ f.GivesWay other := by
  unfold blankWhileGiven at h
  split at h
  · rename_i habsent
    obtain rfl := Except.ok.inj h
    simp only [Bool.and_eq_true, Bool.not_eq_true', Value.isNull_iff] at habsent
    refine iff_of_true rfl (.inl ⟨habsent.1, ?_⟩)
    rintro rfl
    cases habsent.2
  · rename_i hpresent
    have hno : ¬ (f.value = .null ∧ other ≠ .null) := by
      rintro ⟨hv, ho⟩
      apply hpresent
      rw [hv, Value.isNull_of_ne ho]
      rfl
    obtain ⟨blank, hblank, h⟩ := ok_of_bind h
    have hvalue := Value.isBlank_eq_ok hblank
    unfold GivesWay
    split at h
    · rename_i hb
      obtain ⟨blank', hblank', h⟩ := ok_of_bind h
      obtain rfl := Except.ok.inj h
      have hother := Value.isBlank_eq_ok hblank'
      rw [Bool.not_eq_true', ← Bool.not_eq_true, hother]
      simp [hno, hvalue.1 hb]
    · rename_i hb
      obtain rfl := Except.ok.inj h
      simp [hno, mt hvalue.2 hb]

theorem blankWhileGiven_failsBy (f : Focus) (other : Value) :
    FailsBy (f.blankWhileGiven other)
      fun e => e = .wrongValue ∧ (HasLong f.value.integers ∨ HasLong other.integers) := by
  refine failsBy_ite (fun _ => failsBy_ok _) fun _ => ?_
  refine failsBy_bind (f.value.isBlank_failsBy.mono fun e h => ⟨h.1, .inl h.2⟩) fun blank _ => ?_
  refine failsBy_ite (fun _ => ?_) fun _ => failsBy_ok _
  exact failsBy_bind (other.isBlank_failsBy.mono fun e h => ⟨h.1, .inr h.2⟩) fun _ _ => failsBy_ok _

end Focus

theorem Verdict.none_iff_of_tests {skips : Bool} {test : Except Fault Bool} {v : Verdict}
    {p : Prop} {x : Option ErrorRecord} (htest : ∀ b, test = .ok b → (b = true ↔ p))
    (hv : ∀ x, v = .ok x → x ≠ none)
    (h : (do if skips then pass else if ← test then pass else v) = .ok x) :
    x = none ↔ skips = true ∨ p := by
  split at h
  · rename_i hs
    obtain rfl := Except.ok.inj h
    exact iff_of_true rfl (.inl hs)
  · rename_i hs
    obtain ⟨b, hb, h⟩ := ok_of_bind h
    have hp := htest b hb
    split at h
    · rename_i ht
      obtain rfl := Except.ok.inj h
      exact iff_of_true rfl (.inr (hp.1 ht))
    · rename_i ht
      apply iff_of_false (hv x h)
      rintro (hs' | hp')
      · exact hs hs'
      · exact ht (hp.2 hp')

inductive Linked.Excludes (name : String) (other : Value) : Linked → Prop
  | given : Excludes name other (.blankWhen name other)
  | being : Excludes name other (.blankWhenIs name other)

namespace Linked.Excludes
variable {f : Focus} {r : Linked} {name : String} {other : Value}

theorem judge_failsBy (h : r.Excludes name other) (f : Focus) :
    FailsBy (r.judge f)
      fun e => e = .wrongValue ∧ (HasLong f.value.integers ∨ HasLong other.integers) := by
  have htest := f.blankWhileGiven_failsBy other
  cases h with
  | given =>
    refine failsBy_ite (fun _ => failsBy_ok _) fun _ => failsBy_bind htest fun _ _ => ?_
    exact failsBy_ite (fun _ => failsBy_ok _) fun _ => failsBy_ok _
  | being =>
    refine failsBy_ite (fun _ => failsBy_ok _) fun _ => failsBy_bind htest fun _ _ => ?_
    refine failsBy_ite (fun _ => failsBy_ok _) fun _ => failsBy_bind ?_ fun _ _ => failsBy_ok _
    exact failsBy_map (other.wording_failsBy.mono fun e h => ⟨h.1, .inr h.2⟩)

theorem judge_eq_none_iff (h : r.Excludes name other) {x : Option ErrorRecord}
    (hx : r.judge f = .ok x) : x = none ↔ f.skips = true ∨ f.GivesWay other := by
  have htest (b : Bool) (hb : f.blankWhileGiven other = .ok b) := Focus.blankWhileGiven_eq_ok hb
  cases h with
  | given =>
    refine Verdict.none_iff_of_tests htest ?_ hx
    rintro x hv rfl
    cases hv
  | being =>
    refine Verdict.none_iff_of_tests htest ?_ hx
    rintro x hv rfl
    obtain ⟨t, -, hv⟩ := ok_of_bind hv
    cases hv

end Linked.Excludes

theorem Focus.not_givesWay_iff {f : Focus} {other : Value} :
    ¬ (f.skips = true ∨ f.GivesWay other) ↔
      (¬ f.value.Blank ∧ ¬ other.Blank) ∨
      (other.Blank ∧ ¬ (f.value = .null ∧ (f.skipAbsent = true ∨ other ≠ .null))) := by
  have hv : f.value = .null → f.value.Blank := fun h => h ▸ .null
  have ho : other = .null → other.Blank := fun h => h ▸ .null
  rw [skips, Bool.and_eq_true, Value.isNull_iff, GivesWay]
  tauto

/-- Both rules report a focus and another value that are given. They also report every focus beside
a blank value, but for an absent one that is overlooked or stands beside a text. All else passes, and
nothing but integers that are too long for text keeps the rules from deciding. -/
theorem exclusion_reports (checkers : Checkers) (f : Focus) (name : String) (other : Value)
    (r : Linked) (hr : r.Excludes name other) :
    FailsBy ((Rule.linked r).judge checkers f)
      (fun e => e = .wrongValue ∧ (HasLong f.value.integers ∨ HasLong other.integers)) ∧
    ∀ x, (Rule.linked r).judge checkers f = .ok x →
      (x ≠ none ↔ (¬ f.value.Blank ∧ ¬ other.Blank) ∨
        (other.Blank ∧ ¬ (f.value = .null ∧ (f.skipAbsent = true ∨ other ≠ .null)))) := by
  constructor
  · exact hr.judge_failsBy f
  · intro x hx
    rw [Ne, hr.judge_eq_none_iff hx, Focus.not_givesWay_iff]

theorem exclusion_reports_accounts :
    let checkers : Checkers := fun _ _ => .ok .valid
    let f : Focus := { field := some "savingsId", value := .int 5 }
    let blank : Focus := { field := some "savingsId", value := .text " " }
    (∃ x, (Rule.linked (.blankWhen "loanId" (.int 3))).judge checkers f = .ok x ∧ x ≠ none) ∧
    ∃ x, (Rule.linked (.blankWhenIs "loanId" (.int 3))).judge checkers blank = .ok x ∧
      ¬ x ≠ none := by
  intro checkers f blank
  have hfive : ¬ f.value.Blank := by
    rintro ⟨⟩
  have hthree : ¬ (Value.int 3).Blank := by
    rintro ⟨⟩
  have hblank : blank.value.Blank := .text (by decide)
  constructor
  · have h := (exclusion_reports checkers f "loanId" (.int 3) _ .given).2 _ rfl
    exact ⟨_, rfl, h.2 (.inl ⟨hfive, hthree⟩)⟩
  · have h := (exclusion_reports checkers blank "loanId" (.int 3) _ .being).2 _ rfl
    refine ⟨_, rfl, fun hx => ?_⟩
    rcases h.1 hx with ⟨hv, -⟩ | ⟨ho, -⟩
    · exact hv hblank
    · exact hthree ho

/-- Another parameter that is not there is reported as if it were: beside a value, beside a text of
blanks and beside a focus that is not there either. -/
theorem absent_other_reported :
    let checkers : Checkers := fun _ _ => .ok .valid
    let judge (v : Value) := (Rule.linked (.blankWhen "loanId" .null)).judge checkers
      { field := some "savingsId", value := v }
    (Value.null).Blank ∧ (judge (.int 5)).Reports ∧ (judge (.text " ")).Reports ∧
    (judge .null).Reports :=
  ⟨.null, ⟨_, rfl⟩, ⟨_, rfl⟩, ⟨_, rfl⟩⟩

end Scrutiny
