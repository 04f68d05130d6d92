import Scrutiny.Proofs.Session.Growth

/-!
# Contexts that write to one ledger

Which ledger a context writes to is settled when it is made. So contexts that share a ledger do so
for good, and those that do not never will. Contexts are merged exactly if they do not share one.
-/

set_option autoImplicit false

namespace Scrutiny

def Step.bears : Step → Bool
  | .start .. => true
  | .restart _ => true
  | _ => false

namespace Session

/-- Two contexts write to one ledger. -/
def Shares (s : Session) (n m : Nat) : Prop :=
  ∃ l, s.ledgerOf? n = some l ∧ s.ledgerOf? m = some l

def holdings (s : Session) : List Nat := s.contexts.map Context.ledger

theorem holdings_get (s : Session) (n : Nat) : s.holdings[n]? = s.ledgerOf? n := by
  rw [holdings, List.getElem?_map]
  rfl

theorem holdings_setContext {s : Session} {n : Nat} {c d : Context} (h : s.context? n = some c)
    (hd : d.ledger = c.ledger) : (s.setContext n d).holdings = s.holdings := by
  apply List.ext_getElem?
  intro m
  rw [holdings_get, holdings_get, ledgerOf?, ledgerOf?, setContext_context?]
  by_cases hm : n = m
  · subst m
    simp [h, hd]
  · rw [if_neg hm]

theorem startContext_holdings (s : Session) (resource : Option String) (settings : Settings)
    (choice : LedgerChoice) (recurrence cron : Option (String → Check)) :
    (s.startContext resource settings choice recurrence cron).holdings =
      s.holdings ++ [s.ledgerFor choice] := by
  simp [holdings, startContext_contexts]

theorem restart_holdings (s : Session) (c : Context) :
    (s.restart c).session.holdings = s.holdings ++ [c.ledger] := by
  simp [holdings, restart]

section
variable {s s' : Session} {st : Step}

theorem Moves.holdings (mv : Moves s st s') (hb : st.bears = false) :
    s'.holdings = s.holdings := by
  cases mv with
  | still => rfl
  | started => cases hb
  | changed h hf => exact holdings_setContext h rfl
  | judged q h => simp [Session.holdings]
  | restarted => cases hb
  | merged => rfl
  | finished h hc => exact holdings_setContext h rfl

theorem Moves.ledgers_length (mv : Moves s st s') (hb : st.bears = false) :
    s'.ledgers.length = s.ledgers.length := by
  cases mv with
  | started => cases hb
  | _ => simp [restart]

end

variable {s : Session}

theorem run_holdings (s : Session) (steps : List Step) (h : ∀ st ∈ steps, st.bears = false) :
    (s.run steps).holdings = s.holdings := by
  induction steps generalizing s with
  | nil => rfl
  | cons st steps ih =>
    obtain ⟨hst, hsteps⟩ := List.forall_mem_cons.mp h
    rw [run_cons, ih _ hsteps, (step_moves s st).holdings hst]

theorem errors_of_shares {n m : Nat} (h : s.Shares n m) : s.errors n = s.errors m := by
  obtain ⟨l, hn, hm⟩ := h
  obtain ⟨c, hc, hl⟩ := Option.map_eq_some_iff.mp hn
  obtain ⟨d, hd, hl'⟩ := Option.map_eq_some_iff.mp hm
  rw [errors_of_context hc, errors_of_context hd, hl, hl']

theorem ledgerOf_run {n l : Nat} (h : s.ledgerOf? n = some l) (steps : List Step) :
    (s.run steps).ledgerOf? n = some l := by
  obtain ⟨c, hc, hl⟩ := Option.map_eq_some_iff.mp h
  obtain ⟨f, b, hc'⟩ := run_context hc steps
  rw [ledgerOf?, hc', Option.map_some, hl]

theorem shares_run {n m : Nat} (hn : n < s.contexts.length) (hm : m < s.contexts.length)
    (steps : List Step) : (s.run steps).Shares n m ↔ s.Shares n m := by
  obtain ⟨c, hc⟩ := context?_of_lt hn
  obtain ⟨d, hd⟩ := context?_of_lt hm
  have hc := ledgerOf_context hc
  have hd := ledgerOf_context hd
  simp only [Shares, ledgerOf_run hc, ledgerOf_run hd, hc, hd]

theorem lt_run {n : Nat} (h : n < s.contexts.length) (steps : List Step) :
    n < (s.run steps).contexts.length := by
  obtain ⟨c, hc⟩ := context?_of_lt h
  obtain ⟨f, b, hc'⟩ := run_context hc steps
  exact context?_lt hc'

theorem shares_symm {n m : Nat} (h : s.Shares n m) : s.Shares m n := by
  obtain ⟨l, hn, hm⟩ := h
  exact ⟨l, hm, hn⟩

theorem not_shares_run {n m : Nat} (hn : n < s.contexts.length) (hm : m < s.contexts.length)
    (h : ¬ s.Shares n m) (steps : List Step) : ¬ (s.run steps).Shares n m := by
  rwa [shares_run hn hm]

theorem step_merge_shared {n m : Nat} (h : s.Shares n m) :
    ∃ resource, (s.step (.merge n m)).fault = some (.refused (.sharedMerge resource)) := by
  obtain ⟨l, hn, hm⟩ := h
  obtain ⟨c, hc, hl⟩ := Option.map_eq_some_iff.mp hn
  obtain ⟨d, hd, hl'⟩ := Option.map_eq_some_iff.mp hm
  rw [step_merge hc hd, merge_shared (hl'.trans hl.symm)]
  exact ⟨c.focus.resource, rfl⟩

theorem step_merge_apart (hs : s.Grounded) {n m : Nat} (hn : n < s.contexts.length)
    (hm : m < s.contexts.length) (h : ¬ s.Shares n m) :
    (s.step (.merge n m)).fault = none ∧
      (s.step (.merge n m)).session.errors n = s.errors n ++ s.errors m ∧
      ∀ k, ¬ s.Shares n k → (s.step (.merge n m)).session.errors k = s.errors k := by
  obtain ⟨c, hc⟩ := context?_of_lt hn
  obtain ⟨d, hd⟩ := context?_of_lt hm
  have hn := ledgerOf_context hc
  have hm := ledgerOf_context hd
  have hl : d.ledger ≠ c.ledger := fun e => h ⟨c.ledger, hn, by rw [hm, e]⟩
  rw [step_merge hc hd, merge_fault hl, merge_session hl]
  refine ⟨rfl, ?_, ?_⟩
  · rw [errors_of_context (s := s.append _ _) hc, ledger_append_self s (hs.context? hc),
      errors_of_context hc, errors_of_context hd]
  · intro k hk
    cases he : s.context? k with
    | none => simp [errors, he]
    | some e =>
      have hne : c.ledger ≠ e.ledger := by
        intro heq
        apply hk
        exact ⟨c.ledger, hn, heq ▸ ledgerOf_context he⟩
      rw [errors_of_context (s := s.append _ _) he, ledger_append_of_ne s hne,
        errors_of_context he]

end Session
end Scrutiny
