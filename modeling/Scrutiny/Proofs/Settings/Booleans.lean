import Mathlib.Logic.Basic
import Scrutiny.Proofs.Rule.Absence
import Scrutiny.Proofs.Text.Pieces

/-!
# Tokens that count as booleans

The tokens of the settings are glued with the separator of the settings, and a value is compared
with the pieces that the glued text is cut into. The pieces are the tokens if the separator keeps
these apart. A token that holds the separator is cut in two, so that its halves are accepted and it
is not, and where there are no tokens a blank text is accepted.
-/

set_option autoImplicit false

namespace Scrutiny

open Text

namespace Settings

theorem resolve_ok {g : Given} {env : Environment} {s : Settings} (h : resolve g env = .ok s) :
    resolveSeparator g env = .ok s.separator ∧ resolveBooleans g env = .ok s.booleans ∧
      resolveFinishOnce g env = .ok s.finishOnce ∧
      resolveYear g env g.firstYear "CRON_MIN_YEAR" standard.firstYear = .ok s.firstYear ∧
      resolveYear g env g.lastYear "CRON_MAX_YEAR" standard.lastYear = .ok s.lastYear := by
  obtain ⟨separator, hs, h⟩ := ok_of_bind h
  obtain ⟨booleans, hb, h⟩ := ok_of_bind h
  obtain ⟨finishOnce, ho, h⟩ := ok_of_bind h
  obtain ⟨first, hf, h⟩ := ok_of_bind h
  obtain ⟨last, hl, h⟩ := ok_of_bind h
  cases h
  exact ⟨hs, hb, ho, hf, hl⟩

/-- An empty separator is refused where it is given and passed over in the environment. -/
theorem separator_ne_empty {g : Given} {env : Environment} {s : String}
    (h : resolveSeparator g env = .ok s) : s ≠ "" := by
  unfold resolveSeparator at h
  split at h
  · split at h
    · cases h
    · rename_i hs
      cases h
      simpa using hs
  · cases h
    cases ho : (env (g.variable "INPUT_SEPARATOR")).filter fun s => !s.isEmpty with
    | none => decide
    | some t =>
      have ht := (Option.filter_eq_some_iff.1 ho).2
      simpa using ht

def cutTokens (s : Settings) : List (List Char) :=
  pieces s.separator.toList (glue s.separator.toList (s.booleans.map String.toList))

theorem cutTokens_of_apart {s : Settings} (hs : s.separator ≠ "")
    (h : Apart s.separator.toList (s.booleans.map String.toList)) :
    s.cutTokens = s.booleans.map String.toList := by
  have hne : s.separator.toList ≠ [] := fun e => hs (String.toList_eq_nil_iff.1 e)
  exact pieces_glue hne h

theorem tokensOf_glue {s : Settings} (hs : s.separator ≠ "") :
    Wording.tokensOf (glue s.separator.toList (s.booleans.map String.toList)) (.text s.separator) =
      .ok s.cutTokens := by
  have he : s.separator.isEmpty = false := by simpa using hs
  simp only [Wording.tokensOf, he]
  rfl

theorem booleanRule_judge {s : Settings} (hs : s.separator ≠ "") (checkers : Checkers)
    (f : Focus) : s.booleanRule.judge checkers f = f.judgePresent (fun v => do
      if Wording.isToken s.cutTokens (← v.wording) then Verdict.pass
      else f.report "value.should.true.or.false" "value should true or false " v [v]) := by
  simp [booleanRule, Rule.judge, Wording.judge, Wording.textsOf_list, Wording.judgeToken,
    tokensOf_glue hs, bind, Except.bind]

theorem isToken_iff (ts : List (List Char)) (t : List Char) :
    Wording.isToken ts t = true ↔ ∃ p ∈ ts, lower (trim t) = lower p := by
  unfold Wording.isToken
  simp only [List.contains_iff_mem, List.mem_map]
  constructor
  · rintro ⟨p, hp, h⟩
    exact ⟨p, hp, h.symm⟩
  · rintro ⟨p, hp, h⟩
    exact ⟨p, hp, h.symm⟩

section
variable {s : Settings} (hs : s.separator ≠ "") (checkers : Checkers) {f : Focus}
  {t : List Char} (ht : f.value.wording = .ok t)
include hs ht

theorem booleanRule_present (hv : f.value ≠ .null) :
    s.booleanRule.judge checkers f =
      if Wording.isToken s.cutTokens t then Verdict.pass
      else f.report "value.should.true.or.false" "value should true or false " f.value
        [f.value] := by
  rw [booleanRule_judge hs, Focus.judgePresent_of_ne hv, ht]
  rfl

theorem booleanRule_decides : s.booleanRule.judge checkers f = Verdict.pass ∨
    ∃ e, s.booleanRule.judge checkers f = Verdict.violated e := by
  by_cases hv : f.value = .null
  · exact .inl (Settings.booleanRule_absent hv s checkers)
  · rw [booleanRule_present hs checkers ht hv]
    split
    · exact .inl rfl
    · exact .inr ⟨_, rfl⟩

theorem booleanRule_pass_iff : s.booleanRule.judge checkers f = Verdict.pass ↔
    f.value = .null ∨ ∃ p ∈ s.cutTokens, lower (trim t) = lower p := by
  by_cases hv : f.value = .null
  · have hp := Settings.booleanRule_absent hv s checkers
    exact ⟨fun _ => .inl hv, fun _ => hp⟩
  · rw [booleanRule_present hs checkers ht hv, ← isToken_iff]
    by_cases hp : Wording.isToken s.cutTokens t = true
    · rw [if_pos hp]
      exact ⟨fun _ => .inr hp, fun _ => rfl⟩
    · rw [if_neg hp]
      constructor
      · intro h
        cases h
      · rintro (h | h)
        · exact absurd h hv
        · exact absurd h hp

end

theorem booleanRule_of_fault {s : Settings} (hs : s.separator ≠ "") (checkers : Checkers)
    {f : Focus} {x : Fault} (hx : f.value.wording = .error x) :
    s.booleanRule.judge checkers f = .error x := by
  have hv : f.value ≠ .null := by
    intro h
    rw [h] at hx
    cases hx
  rw [booleanRule_judge hs, Focus.judgePresent_of_ne hv, hx]
  rfl

/-- What settings take for a boolean: nothing at all, or what reads as a piece of their tokens, and
these pieces are the tokens where the separator keeps them apart. -/
theorem booleans_accepted (g : Given) (env : Environment) (s : Settings)
    (h : resolve g env = .ok s) (checkers : Checkers) (f : Focus) :
    let verdict := (Inquiry.boolean.completed s).judge checkers f
    (∀ x, f.value.wording = .error x → verdict = .error x) ∧
    ∀ t, f.value.wording = .ok t →
      (verdict = Verdict.pass ∨ ∃ e, verdict = Verdict.violated e) ∧
      (verdict = Verdict.pass ↔
        f.value = .null ∨ ∃ p ∈ s.cutTokens, lower (trim t) = lower p) ∧
      (Apart s.separator.toList (s.booleans.map String.toList) →
        (verdict = Verdict.pass ↔
          f.value = .null ∨ ∃ b ∈ s.booleans, lower (trim t) = lower b.toList)) := by
  intro verdict
  have hs := separator_ne_empty (resolve_ok h).1
  refine ⟨fun x hx => booleanRule_of_fault hs checkers hx, fun t ht => ?_⟩
  have hpass := booleanRule_pass_iff hs checkers ht
  refine ⟨booleanRule_decides hs checkers ht, hpass, fun ha => hpass.trans ?_⟩
  rw [cutTokens_of_apart hs ha]
  simp only [List.mem_map, exists_exists_and_eq_and]

theorem booleans_accepted_yes :
    let given : Given :=
      { separator := some ", ", booleans := some (.list [.text " yes", .text "no"]) }
    let settings : Settings := { separator := ", ", booleans := ["YES", "NO"] }
    let checkers : Checkers := fun _ _ => .ok .valid
    let f : Focus := { value := .text " Yes " }
    resolve given (fun _ => none) = .ok settings ∧
      f.value.wording = .ok " Yes ".toList ∧
      Apart settings.separator.toList (settings.booleans.map String.toList) ∧
      (Inquiry.boolean.completed settings).judge checkers f = Verdict.pass := by
  intro given settings checkers f
  have hg : resolve given (fun _ => none) = .ok settings := by rfl
  have ha : Apart settings.separator.toList (settings.booleans.map String.toList) := by decide
  refine ⟨hg, rfl, ha, ?_⟩
  have hf := ((booleans_accepted given _ settings hg checkers f).2 " Yes ".toList rfl).2.2 ha
  have ht : lower (trim " Yes ".toList) = lower "YES".toList := by decide +kernel
  exact hf.2 (.inr ⟨"YES", List.mem_cons_self, ht⟩)

/-- A token that holds the separator is refused, and so it is not true that what is accepted is
what the tokens say. -/
theorem cut_token_refused :
    let given : Given :=
      { separator := some "_", booleans := some (.list [.text "n_a", .text "yes"]) }
    let settings : Settings := { separator := "_", booleans := ["N_A", "YES"] }
    let checkers : Checkers := fun _ _ => .ok .valid
    let f : Focus := { resource := some "client", field := some "active", value := .text "n_a" }
    resolve given (fun _ => none) = .ok settings ∧ "N_A" ∈ settings.booleans ∧
      f.value.wording = .ok "n_a".toList ∧ lower (trim "n_a".toList) = lower "N_A".toList ∧
      ∃ e, (Inquiry.boolean.completed settings).judge checkers f = Verdict.violated e := by
  intro given settings checkers f
  have ht : lower (trim "n_a".toList) = lower "N_A".toList := by decide +kernel
  have hc : Wording.isToken settings.cutTokens "n_a".toList = false := by decide +kernel
  have hs : settings.separator ≠ "" := by simp [settings]
  have hv : f.value ≠ .null := by simp [f]
  have hj := booleanRule_present hs checkers (f := f) rfl hv
  rw [hc] at hj
  exact ⟨rfl, List.mem_cons_self, rfl, ht, _, hj⟩

end Settings
end Scrutiny
