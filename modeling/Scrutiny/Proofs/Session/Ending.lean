import Mathlib.Data.List.Induction
import Scrutiny.Failure
import Scrutiny.Proofs.Session.Atomic

/-!
# The end of a context

A context's first end tells whether there are violations, and so does every end if the settings
allow more than one. What it tells is the whole ledger as it is then, whoever has written it. The
mark that an end leaves is read off the steps: it is there once the context, being there, has been
ended, whatever the end has told. It stays with its context, and no step but a further end of that
context looks at it.
-/

set_option autoImplicit false

namespace Scrutiny

/-- A turn that fails with these records, as they are and as dictionaries. -/
def Turn.Tells (t : Turn) (es : List ErrorRecord) : Prop :=
  ∃ fault failure, t.fault = some fault ∧ fault.failure? = some failure ∧
    failure.kind = .violations es ∧ failure.details = .list (es.map ErrorRecord.toValue)

namespace Session

variable {s s' : Session} {st : Step}

/-- Among the steps is an end of the context at a time when it is there. -/
def EndedIn (s : Session) (n : Nat) (steps : List Step) : Prop :=
  ∃ early, early ++ [.finish n] <+: steps ∧ (s.run early).context? n ≠ none

theorem endedIn_append (s : Session) (n : Nat) (steps : List Step) (st : Step) :
    s.EndedIn n (steps ++ [st]) ↔
      s.EndedIn n steps ∨ st = .finish n ∧ (s.run steps).context? n ≠ none := by
  constructor
  · rintro ⟨early, h, hc⟩
    rcases List.prefix_concat_iff.mp h with h | h
    · obtain ⟨rfl, hst⟩ := List.append_inj' h rfl
      exact .inr ⟨(List.singleton_inj.mp hst).symm, hc⟩
    · exact .inl ⟨early, h, hc⟩
  · rintro (⟨early, h, hc⟩ | ⟨rfl, hc⟩)
    · exact ⟨early, h.trans (List.prefix_append _ _), hc⟩
    · exact ⟨steps, List.prefix_rfl, hc⟩

theorem EndedIn.found {n : Nat} {steps : List Step} (h : s.EndedIn n steps) :
    (s.run steps).context? n ≠ none := by
  obtain ⟨early, ⟨late, rfl⟩, hc⟩ := h
  obtain ⟨c, hc⟩ := Option.ne_none_iff_exists'.mp hc
  obtain ⟨f, b, hc'⟩ := run_context hc (.finish n :: late)
  rw [List.append_assoc, List.singleton_append, run_append, hc']
  exact Option.some_ne_none _

theorem Moves.mark (mv : Moves s st s') {n : Nat} {c : Context} (h : s'.context? n = some c)
    (hst : st ≠ .finish n) : c.finished = ((s.context? n).map Context.finished).getD false := by
  have of_append : ∀ {d : Context}, d.finished = false → (s.contexts ++ [d])[n]? = some c →
      c.finished = ((s.context? n).map Context.finished).getD false := by
    intro d hd hc
    rcases getElem?_concat_iff.mp hc with hc | ⟨rfl, rfl⟩
    · rw [context?, hc]
      rfl
    · rw [context?, List.getElem?_eq_none (Nat.le_refl _)]
      exact hd
  cases mv with
  | still => rw [h]; rfl
  | started resource settings choice recurrence cron =>
    rw [context?, startContext_contexts] at h
    exact of_append rfl h
  | @changed k d ch f hk hf =>
    by_cases hn : k = n
    · subst k
      rw [setContext_self s hk] at h
      obtain rfl := Option.some.inj h
      rw [hk]
      rfl
    · rw [setContext_of_ne s hn] at h
      rw [h]
      rfl
  | judged q hk =>
    rw [append_context?, asking_context?] at h
    rw [h]
    rfl
  | restarted hk => exact of_append rfl h
  | merged =>
    rw [append_context?] at h
    rw [h]
    rfl
  | @finished k d hk hd =>
    have hn : k ≠ n := fun e => hst (by rw [e])
    rw [setContext_of_ne s hn] at h
    rw [h]
    rfl

theorem step_finished {n : Nat} {c : Context} (h : (s.step st).session.context? n = some c) :
    c.finished = true ↔
      ((s.context? n).map Context.finished).getD false = true ∨
        st = .finish n ∧ s.context? n ≠ none := by
  by_cases hst : st = .finish n
  · subst st
    rw [step_finish_session, marked_context?] at h
    obtain ⟨d, hd, rfl⟩ := Option.map_eq_some_iff.mp h
    simp [mark, Context.marked, hd]
  · rw [(step_moves s st).mark h hst]
    simp [hst]

/-- The mark of a context says whether it has been ended since it was made. -/
theorem finished_iff_ended (libs : Libraries) (ledgers : List (List ErrorRecord))
    (steps : List Step) {n : Nat} {c : Context} (h : (run (initial libs ledgers) steps).context? n = some c) :
    c.finished = true ↔ EndedIn (initial libs ledgers) n steps := by
  induction steps using List.reverseRecOn generalizing c with
  | nil => simp [context?, initial] at h
  | append_singleton steps st ih =>
    rw [run_append] at h
    rw [step_finished h, endedIn_append]
    apply or_congr_left
    cases hc : (run (initial libs ledgers) steps).context? n with
    | some d => exact ih hc
    | none =>
      have hne : ¬ EndedIn (initial libs ledgers) n steps := fun he => he.found hc
      simp [hne]

theorem finish_tells {n : Nat} {c : Context} (h : s.context? n = some c)
    (hc : c.isClosed = false) :
    (s.errors n = [] → (s.step (.finish n)).fault = none) ∧
      (s.errors n ≠ [] → (s.step (.finish n)).Tells (s.errors n)) := by
  have hf : (s.finish n c).fault = _ := finish_fault hc
  rw [← errors_of_context h] at hf
  rw [step_finish h]
  constructor
  · intro hn
    rw [hf, if_pos hn]
  · intro hn
    rw [if_neg hn] at hf
    exact ⟨_, _, hf, rfl, rfl, rfl⟩

theorem finish_refused {n : Nat} {c : Context} (h : s.context? n = some c)
    (hc : c.isClosed = true) :
    ∃ r, (s.step (.finish n)).fault = some (.refused r) ∧ r.kind = .misuse := by
  rw [step_finish h, finish_closed hc]
  exact ⟨_, rfl, rfl⟩

theorem reported_marked (s : Session) (n m : Nat) (q : Inquiry) :
    (s.marked n).reported m q = s.reported m q := by
  have hv : (fun c => ((s.marked n).verdict c q).records) ∘ mark n m =
      fun c => (s.verdict c q).records := by
    funext c
    obtain ⟨b, hb⟩ := mark_eq n m c
    simp only [Function.comp_apply, hb]
    rfl
  rw [reported, marked_context?, Option.map_map, hv, reported]

structure EndOf (s : Session) (n : Nat) (c : Context) (before : Prop) : Prop where
  tells : ¬ before ∨ c.settings.finishOnce.isTrue = false →
    (s.errors n = [] → (s.step (.finish n)).fault = none) ∧
      (s.errors n ≠ [] → (s.step (.finish n)).Tells (s.errors n))
  refused : before → c.settings.finishOnce.isTrue = true →
    ∃ r, (s.step (.finish n)).fault = some (.refused r) ∧ r.kind = .misuse
  ledgers : (s.step (.finish n)).session.ledgers = s.ledgers
  focuses : ∀ m, (s.step (.finish n)).session.focus? m = s.focus? m
  /-- All that is done later, further ends of this context apart, goes as if it had not ended. -/
  unnoticed : ∀ steps next, next ≠ .finish n →
    let after := ((s.step (.finish n)).session.run steps).step next
    let without := (s.run steps).step next
    after.notes = without.notes ∧ after.fault = without.fault ∧
      after.session.ledgers = without.session.ledgers
  recording : ∀ q, ((s.step (.finish n)).session.step (.judge n q)).session.errors n =
    s.errors n ++ s.reported n q

/-- In every session that is reached, an end of a context tells what its ledger holds, or is
refused if the context has been ended before and its settings allow one end only. -/
theorem end_of_context (libs : Libraries) (ledgers : List (List ErrorRecord))
    (before : List Step) {n : Nat} {c : Context} (h : (run (initial libs ledgers) before).context? n = some c) :
    EndOf (run (initial libs ledgers) before) n c (EndedIn (initial libs ledgers) n before) := by
  have hs := run_grounded (grounded_initial libs ledgers) before
  have hf := finished_iff_ended libs ledgers before h
  constructor
  case tells =>
    intro hb
    apply finish_tells h
    rw [Context.isClosed, Bool.and_eq_false_iff]
    rw [← hf, Bool.not_eq_true] at hb
    exact hb
  case refused =>
    intro hb ho
    apply finish_refused h
    rw [Context.isClosed, Bool.and_eq_true]
    exact ⟨hf.mpr hb, ho⟩
  case ledgers =>
    rw [step_finish_session]
    rfl
  case focuses =>
    rw [step_finish_session]
    exact (sameView_marked _ n).focuses
  case unnoticed =>
    intro steps next hn
    obtain ⟨f, b, hc⟩ := run_context h steps
    rw [step_finish_session, run_marked h, step_marked hc hn]
    exact ⟨rfl, rfl, rfl⟩
  case recording =>
    intro q
    have hg := (step_moves _ (.finish n)).grounded hs
    rw [step_finish_session] at hg ⊢
    rw [errors_judge hg (marked_found h), reported_marked, (sameView_marked _ n).errors]

theorem end_of_restarted :
    let e : ErrorRecord := ⟨.text "code", .text "message", .text "field", .null, []⟩
    let s := run (initial .lenient [[e]])
      [.start none {} (.existing 0) none none, .restart 0, .finish 0]
    (s.step (.finish 1)).Tells [e] ∧
      ∃ r, (s.step (.finish 0)).fault = some (.refused r) ∧ r.kind = .misuse := by
  intro e s
  have first := end_of_context .lenient [[e]]
    [.start none {} (.existing 0) none none, .restart 0, .finish 0] (n := 0) rfl
  have second := end_of_context .lenient [[e]]
    [.start none {} (.existing 0) none none, .restart 0, .finish 0] (n := 1) rfl
  constructor
  · refine (second.tells (.inl fun h => ?_)).2 (List.cons_ne_nil e [])
    exact absurd ((finished_iff_ended .lenient [[e]] _ rfl).mpr h) Bool.false_ne_true
  · exact first.refused ((finished_iff_ended .lenient [[e]] _ rfl).mp rfl) rfl

end Session
end Scrutiny
