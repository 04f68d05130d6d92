import Scrutiny.Proofs.Rule.Amounts
import Scrutiny.Proofs.Rule.Matching
import Scrutiny.Proofs.Value.Comparing

/-!
# Rules that complement each other

Two rules ask whether the value in focus matches another parameter, and two whether it matches one
of a list. Of each pair exactly one rule passes a value that is there, as long as no signaling number
keeps values from being compared. The other rule reports, unless it is to name values of the list
that have no text. A list of one value asks what the rule on another parameter asks, and of a list
only its members count, not their order or how often they stand in it.
-/

set_option autoImplicit false

namespace Scrutiny

namespace Value
variable {a b : Value} {vs ws : List Value}

def Matches (a b : Value) : Prop := a.same b = .ok true

theorem same_decides (ha : a.IsQuiet) (hb : b.IsQuiet) : ∃ r, a.same b = .ok r := by
  have h : FailsBy (a.same b) fun _ => False :=
    failsBy_ite (fun _ => equal_failsBy a b ha hb) fun _ => failsBy_ok false
  exact h.exists_ok

theorem isSameAsSome_decides (ha : a.IsQuiet) (hs : AreQuiet vs) :
    ∃ r, a.isSameAsSome vs = .ok r ∧ (r = true ↔ ∃ w ∈ vs, a.Matches w) :=
  anyM_decides fun w hw => same_decides ha (areQuiet_iff.1 hs w hw)

theorem areQuiet_append : AreQuiet (vs ++ ws) ↔ AreQuiet vs ∧ AreQuiet ws := by
  simp only [areQuiet_iff, List.forall_mem_append]

theorem matches_append :
    (∃ w ∈ vs ++ ws, a.Matches w) ↔ (∃ w ∈ vs, a.Matches w) ∨ ∃ w ∈ ws, a.Matches w := by
  simp only [List.mem_append, or_and_right, exists_or]

end Value

namespace Verdict
variable {v w : Verdict} {p : Prop}

/-- One of two verdicts passes, and of the other one something is known. -/
def OnePasses (v w : Verdict) (rest : Verdict → Prop) : Prop :=
  v = pass ∧ rest w ∨ rest v ∧ w = pass

theorem OnePasses.left {rest : Verdict → Prop} (h : OnePasses v w rest) (hr : ¬ rest pass)
    (hw : w = pass) : rest v := by
  rcases h with ⟨-, hrest⟩ | ⟨hrest, -⟩
  · exact absurd (hw ▸ hrest) hr
  · exact hrest

theorem Decides.onePasses (hv : v.Decides p) (hw : w.Decides (¬ p)) : OnePasses v w Reports := by
  by_cases hp : p
  · exact .inl ⟨hv.passes hp, hw.reports (not_not.2 hp)⟩
  · exact .inr ⟨hv.reports hp, hw.passes hp⟩

structure PassesElse (v : Verdict) (p : Prop) (x : Verdict) : Prop where
  passes : p → v = pass
  otherwise : ¬ p → v = x

namespace PassesElse
variable {q : Prop} {x y : Verdict}

theorem pass_iff (h : v.PassesElse p x) (hx : x ≠ pass) : v = pass ↔ p := by
  refine ⟨fun hv => ?_, h.passes⟩
  by_contra hp
  exact hx ((h.otherwise hp).symm.trans hv)

theorem decides (h : v.PassesElse p x) (hx : x.Reports) : v.Decides p := by
  refine ⟨h.passes, fun hp => ?_⟩
  rw [h.otherwise hp]
  exact hx

theorem onePasses {rest : Verdict → Prop} (hv : v.PassesElse p x) (hw : w.PassesElse (¬ p) y)
    (hx : rest x) (hy : rest y) : OnePasses v w rest := by
  by_cases hp : p
  · refine .inl ⟨hv.passes hp, ?_⟩
    rwa [hw.otherwise (not_not.2 hp)]
  · refine .inr ⟨?_, hw.passes hp⟩
    rwa [hv.otherwise hp]

theorem alike (hv : v.PassesElse p x) (hw : w.PassesElse q y) (hpq : p ↔ q) (hxy : x.Alike y) :
    v.Alike w := by
  by_cases hp : p
  · rw [hv.passes hp, hw.passes (hpq.1 hp)]
    exact alike_pass
  · rwa [hv.otherwise hp, hw.otherwise (mt hpq.2 hp)]

end PassesElse

/-- A report that is to name the values of a list: there is one if all of them have a text. -/
structure Lists (vs : List Value) (v : Verdict) : Prop where
  reports : (∀ x ∈ vs, x.IsWritable) → v.Reports
  fails : ¬ (∀ x ∈ vs, x.IsWritable) → v = .error .wrongValue

theorem Lists.ne_pass {vs : List Value} (h : v.Lists vs) : v ≠ pass := by
  rintro rfl
  by_cases hw : ∀ x ∈ vs, x.IsWritable
  · exact not_reports_pass (h.reports hw)
  · cases h.fails hw

end Verdict

theorem Value.IsWritable.wordingText {v : Value} (h : v.IsWritable) :
    ∃ t, v.wordingText = .ok t := by
  have hf : FailsBy v.wordingText fun _ => False :=
    failsBy_map (v.wording_failsBy.mono fun _ hl => h hl.2)
  exact hf.exists_ok

theorem Value.wordingText_of_not_isWritable {v : Value} (h : ¬ v.IsWritable) :
    v.wordingText = .error .wrongValue := by
  rw [wordingText, wording_of_hasLong (not_not.1 h)]
  rfl

theorem wordingTexts_ok {vs : List Value} (h : ∀ v ∈ vs, v.IsWritable) :
    ∃ ts, vs.mapM Value.wordingText = .ok ts :=
  exists_mapM_ok fun v hv => (h v hv).wordingText

theorem wordingTexts_error {vs : List Value} (h : ¬ ∀ v ∈ vs, v.IsWritable) :
    vs.mapM Value.wordingText = .error .wrongValue := by
  induction vs with
  | nil => exact absurd (List.forall_mem_nil _) h
  | cons v vs ih =>
    rw [List.mapM_cons]
    by_cases hv : v.IsWritable
    · obtain ⟨t, ht⟩ := hv.wordingText
      rw [ht, ih fun hvs => h (List.forall_mem_cons.2 ⟨hv, hvs⟩)]
      rfl
    · rw [Value.wordingText_of_not_isWritable hv]
      rfl

namespace Focus
variable (f : Focus) (suffix text : String) {vs ws : List Value}

theorem reportChoice_ok (h : ∀ v ∈ vs, v.IsWritable) :
    ∃ e, f.reportChoice suffix text vs = .violated e ∧ e.code = .text (f.fieldCode suffix) := by
  obtain ⟨ts, hts⟩ := wordingTexts_ok h
  rw [reportChoice, hts]
  exact ⟨_, rfl, rfl⟩

theorem reportChoice_error (h : ¬ ∀ v ∈ vs, v.IsWritable) :
    f.reportChoice suffix text vs = .error .wrongValue := by
  rw [reportChoice, wordingTexts_error h]
  rfl

theorem reportChoice_lists (vs : List Value) : (f.reportChoice suffix text vs).Lists vs := by
  constructor
  · intro h
    obtain ⟨e, he, -⟩ := f.reportChoice_ok suffix text h
    exact ⟨e, he⟩
  · exact f.reportChoice_error suffix text

theorem reportChoice_alike (h : ∀ v, v ∈ vs ↔ v ∈ ws) :
    (f.reportChoice suffix text vs).Alike (f.reportChoice suffix text ws) := by
  have hall : (∀ v ∈ vs, v.IsWritable) ↔ ∀ v ∈ ws, v.IsWritable := by simp only [h]
  by_cases hw : ∀ v ∈ vs, v.IsWritable
  · obtain ⟨e, he, hcode⟩ := f.reportChoice_ok suffix text hw
    obtain ⟨e', he', hcode'⟩ := f.reportChoice_ok suffix text (hall.1 hw)
    rw [he, he']
    exact .value (.some (hcode.trans hcode'.symm))
  · rw [f.reportChoice_error suffix text hw, f.reportChoice_error suffix text (mt hall.2 hw)]
    exact .fault .wrongValue

end Focus

section
variable {f : Focus} {vs ws : List Value} {w : Value} (hf : f.value ≠ .null)
  (hq : f.value.IsQuiet)
include hf hq

theorem Linked.equalTo_decides (name : String) (hw : w.IsQuiet) :
    ((equalTo name w).judge f).Decides (f.value.Matches w) := by
  obtain ⟨r, hr⟩ := Value.same_decides hq hw
  rw [judge, Focus.bothAbsent, Focus.skips_of_present hf, Value.isNull_of_ne hf, Value.Matches, hr]
  cases r with
  | true => exact Verdict.decides_pass rfl
  | false => exact Verdict.Reports.decides ⟨_, rfl⟩ (by rintro ⟨⟩)

theorem Linked.differentFrom_decides (name : String) (hw : w.IsQuiet) :
    ((differentFrom name w).judge f).Decides (¬ f.value.Matches w) := by
  obtain ⟨r, hr⟩ := Value.same_decides hq hw
  rw [judge, Focus.bothAbsent, Focus.skips_of_present hf, Value.isNull_of_ne hf, Value.Matches, hr]
  cases r with
  | true => exact Verdict.Reports.decides ⟨_, rfl⟩ (not_not.2 rfl)
  | false => exact Verdict.decides_pass (by rintro ⟨⟩)

namespace Choice

theorem oneOf_passesElse (hs : Value.AreQuiet vs) : ((oneOf vs).judge f).PassesElse
    (∃ w ∈ vs, f.value.Matches w) (f.notOneOf vs) := by
  obtain ⟨r, hr, hiff⟩ := Value.isSameAsSome_decides hq hs
  rw [judge, Focus.skips_of_present hf, Value.isNull_of_ne hf, hr, ← hiff]
  cases r with
  | true => exact ⟨fun _ => rfl, fun h => absurd rfl h⟩
  | false => exact ⟨fun h => absurd h Bool.false_ne_true, fun _ => rfl⟩

theorem noneOf_passesElse (hs : Value.AreQuiet vs) : ((noneOf vs).judge f).PassesElse
    (¬ ∃ w ∈ vs, f.value.Matches w)
    (f.reportChoice "is.one.of.unwanted.enumerations" "must not be any of" vs) := by
  obtain ⟨r, hr, hiff⟩ := Value.isSameAsSome_decides hq hs
  rw [judge, Focus.judgePresent_of_ne hf, hr, ← hiff]
  cases r with
  | true => exact ⟨fun h => absurd rfl h, fun _ => rfl⟩
  | false => exact ⟨fun _ => rfl, fun h => absurd Bool.false_ne_true h⟩

theorem oneOf_pass_iff_matches (hs : Value.AreQuiet vs) :
    (oneOf vs).judge f = .pass ↔ ∃ w ∈ vs, f.value.Matches w :=
  (oneOf_passesElse hf hq hs).pass_iff (f.reportChoice_lists _ _ vs).ne_pass

theorem noneOf_pass_iff_matches (hs : Value.AreQuiet vs) :
    (noneOf vs).judge f = .pass ↔ ¬ ∃ w ∈ vs, f.value.Matches w :=
  (noneOf_passesElse hf hq hs).pass_iff (f.reportChoice_lists _ _ vs).ne_pass

theorem onePasses (hs : Value.AreQuiet vs) :
    Verdict.OnePasses ((oneOf vs).judge f) ((noneOf vs).judge f) (Verdict.Lists vs) :=
  (oneOf_passesElse hf hq hs).onePasses (noneOf_passesElse hf hq hs) (f.reportChoice_lists _ _ vs)
    (f.reportChoice_lists _ _ vs)

theorem alike_of_members (hs : Value.AreQuiet vs) (ht : Value.AreQuiet ws)
    (h : ∀ v, v ∈ vs ↔ v ∈ ws) :
    ((oneOf vs).judge f).Alike ((oneOf ws).judge f) ∧
    ((noneOf vs).judge f).Alike ((noneOf ws).judge f) := by
  have hsame : (∃ w ∈ vs, f.value.Matches w) ↔ ∃ w ∈ ws, f.value.Matches w := by simp only [h]
  constructor
  · exact (oneOf_passesElse hf hq hs).alike (oneOf_passesElse hf hq ht) hsame
      (f.reportChoice_alike _ _ h)
  · exact (noneOf_passesElse hf hq hs).alike (noneOf_passesElse hf hq ht) (not_congr hsame)
      (f.reportChoice_alike _ _ h)

end Choice

end

/-- A value that is there passes one rule of each pair, whatever it is compared with: it either
matches the other parameter or differs from it, and either is one of a list or none of it. The other
rule of the pair reports, though one on a list fails where it is to name an integer that is too long.
A list of one value is passed where that value is matched, two lists joined where one of them is, and
lists with the same members are judged alike. -/
theorem complements_partition (checkers : Checkers) (f : Focus) (hf : f.value ≠ .null)
    (hq : f.value.IsQuiet) :
    let linked (r : Linked) := (Rule.linked r).judge checkers f
    let choice (r : Choice) := (Rule.choice r).judge checkers f
    (∀ name other w, w.IsQuiet → Verdict.OnePasses (linked (.equalTo name w))
      (linked (.differentFrom other w)) Verdict.Reports) ∧
    (∀ vs, Value.AreQuiet vs →
      Verdict.OnePasses (choice (.oneOf vs)) (choice (.noneOf vs)) (Verdict.Lists vs)) ∧
    (∀ name w, w.IsQuiet →
      (choice (.oneOf [w]) = .pass ↔ linked (.equalTo name w) = .pass) ∧
      (w.IsWritable →
        ((choice (.oneOf [w])).Reports ↔ (linked (.equalTo name w)).Reports))) ∧
    ∀ vs ws, Value.AreQuiet vs → Value.AreQuiet ws →
      (choice (.oneOf (vs ++ ws)) = .pass ↔
        choice (.oneOf vs) = .pass ∨ choice (.oneOf ws) = .pass) ∧
      (choice (.noneOf (vs ++ ws)) = .pass ↔
        choice (.noneOf vs) = .pass ∧ choice (.noneOf ws) = .pass) ∧
      ((∀ v, v ∈ vs ↔ v ∈ ws) → (choice (.oneOf vs)).Alike (choice (.oneOf ws)) ∧
        (choice (.noneOf vs)).Alike (choice (.noneOf ws))) := by
  intro linked choice
  refine ⟨fun name other w hw => ?_, fun vs hs => Choice.onePasses hf hq hs, fun name w hw => ?_,
    fun vs ws hs ht => ⟨?_, ?_, Choice.alike_of_members hf hq hs ht⟩⟩
  · exact (Linked.equalTo_decides hf hq name hw).onePasses
      (Linked.differentFrom_decides hf hq other hw)
  · have hlist : Value.AreQuiet [w] := ⟨hw, trivial⟩
    have hone : (∃ x ∈ [w], f.value.Matches x) ↔ f.value.Matches w := by simp
    have hlinked := Linked.equalTo_decides hf hq name hw
    refine ⟨?_, fun hwritable => ?_⟩
    · exact (Choice.oneOf_pass_iff_matches hf hq hlist).trans (hone.trans hlinked.pass_iff.symm)
    · have hall : ∀ x ∈ [w], x.IsWritable := by simpa using hwritable
      have hchoice : (choice (.oneOf [w])).Decides _ := (Choice.oneOf_passesElse hf hq hlist).decides
        ((f.reportChoice_lists _ _ [w]).reports hall)
      exact hchoice.reports_iff.trans ((not_congr hone).trans hlinked.reports_iff.symm)
  · have hboth := Value.areQuiet_append.2 ⟨hs, ht⟩
    refine (Choice.oneOf_pass_iff_matches hf hq hboth).trans (Value.matches_append.trans ?_)
    exact or_congr (Choice.oneOf_pass_iff_matches hf hq hs).symm
      (Choice.oneOf_pass_iff_matches hf hq ht).symm
  · have hboth := Value.areQuiet_append.2 ⟨hs, ht⟩
    refine (Choice.noneOf_pass_iff_matches hf hq hboth).trans ?_
    rw [Value.matches_append, not_or]
    exact and_congr (Choice.noneOf_pass_iff_matches hf hq hs).symm
      (Choice.noneOf_pass_iff_matches hf hq ht).symm

theorem complements_partition_undefined :
    let checkers : Checkers := fun _ _ => .ok .valid
    let f : Focus := { field := some "rate", value := .real (.undefined 0) }
    let listed : List Value := [.int 1, .real (.undefined 0)]
    ((Rule.linked (.equalTo "cap" f.value)).judge checkers f).Reports ∧
    (Rule.linked (.differentFrom "cap" f.value)).judge checkers f = .pass ∧
    ((Rule.choice (.oneOf listed)).judge checkers f).Reports ∧
    (Rule.choice (.noneOf (listed ++ listed))).judge checkers f = .pass := by
  intro checkers f listed
  have hs : Value.AreQuiet listed := ⟨trivial, trivial, trivial⟩
  have hwritable : ∀ x ∈ listed, x.IsWritable := by
    have hone : ¬ IsLong 1 := by decide
    simpa [listed, Value.IsWritable, HasLong, Value.integers] using hone
  have hno : ¬ f.value.Matches f.value := by
    simp [f, Value.Matches, Value.same, Value.equal, Value.number?, Value.equalNumbers,
      Double.toDecimal, Decimal.isSignaling, Decimal.compare?]
  have hnever : ¬ ∃ w ∈ listed, f.value.Matches w := by
    have hone : ¬ f.value.Matches (.int 1) := by
      simp [f, Value.Matches, Value.same, Value.kind]
    simpa [listed] using ⟨hone, hno⟩
  have hthere : f.value ≠ .null := by simp [f]
  have hquiet : f.value.IsQuiet := trivial
  have hdiffers := (Linked.differentFrom_decides hthere hquiet "cap" hquiet).passes hno
  have hnone := (Choice.noneOf_passesElse hthere hquiet hs).passes hnever
  obtain ⟨hlinked, hchoice, -, hlists⟩ := complements_partition checkers f hthere hquiet
  refine ⟨?_, hdiffers, ?_, (hlists listed listed hs hs).2.1.2 ⟨hnone, hnone⟩⟩
  · exact (hlinked "cap" "cap" f.value hquiet).left Verdict.not_reports_pass hdiffers
  · exact ((hchoice listed hs).left (fun h => h.ne_pass rfl) hnone).reports hwritable

/-- A list of an integer that is too long to be written: a value that it does not have is reported by
neither rule on the list, though it is reported beside a parameter that holds the integer. -/
theorem overlong_choice_unreported :
    let checkers : Checkers := fun _ _ => .ok .valid
    let f : Focus := { field := some "rate", value := .text "high" }
    let long : Value := .int (tenTo Text.digitLimit : Nat)
    (Rule.choice (.oneOf [long])).judge checkers f = .error .wrongValue ∧
    (Rule.choice (.noneOf [long])).judge checkers f = .pass ∧
    ((Rule.linked (.equalTo "cap" long)).judge checkers f).Reports := by
  intro checkers f long
  have hthere : f.value ≠ .null := nofun
  have hquiet : f.value.IsQuiet := trivial
  have hlist : Value.AreQuiet [long] := ⟨trivial, trivial⟩
  have hlong : ¬ ∀ x ∈ [long], x.IsWritable := by
    have hone : HasLong long.integers := ⟨_, List.mem_singleton_self _, isLong_tenTo⟩
    exact fun h => h long (List.mem_singleton_self _) hone
  have hno : ¬ f.value.Matches long := by
    simp [f, long, Value.Matches, Value.same, Value.kind]
  have hnone : ¬ ∃ w ∈ [long], f.value.Matches w := by simpa using hno
  have hfails : (Choice.oneOf [long]).judge f = .error .wrongValue :=
    ((Choice.oneOf_passesElse hthere hquiet hlist).otherwise hnone).trans
      (f.reportChoice_error _ _ hlong)
  have hpasses := (Choice.noneOf_passesElse hthere hquiet hlist).passes hnone
  exact ⟨hfails, hpasses, (Linked.equalTo_decides hthere hquiet "cap" hlist.1).reports hno⟩

end Scrutiny
