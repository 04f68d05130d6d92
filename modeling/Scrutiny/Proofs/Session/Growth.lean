import Scrutiny.Proofs.Session.Turn

/-!
# Ledgers only grow

Contexts may share ledgers, and what a step on one of them writes is seen by all that share its
ledger. This module says which steps write what and where, and that a step leaves every context
but its own alone. For a write to arrive, the ledger has to exist. That is not assumed: a session
that begins without contexts is grounded, and every step keeps it so.
-/

set_option autoImplicit false

namespace Scrutiny.Session

variable {s s' : Session} {st : Step}

theorem context?_lt {n : Nat} {c : Context} (h : s.context? n = some c) :
    n < s.contexts.length :=
  (List.getElem?_eq_some_iff.mp h).1

theorem context?_of_lt {n : Nat} (h : n < s.contexts.length) : ∃ c, s.context? n = some c :=
  ⟨_, List.getElem?_eq_getElem h⟩

theorem ledgerOf_context {n : Nat} {c : Context} (h : s.context? n = some c) :
    s.ledgerOf? n = some c.ledger := by
  rw [ledgerOf?, h, Option.map_some]

theorem context?_of_append {n : Nat} {c : Context} (h : s.context? n = some c)
    (extra : List Context) : (s.contexts ++ extra)[n]? = some c := by
  rw [List.getElem?_append_left (context?_lt h)]
  exact h

theorem getElem?_concat_iff {α : Type} {xs : List α} {x y : α} {i : Nat} :
    (xs ++ [x])[i]? = some y ↔ xs[i]? = some y ∨ i = xs.length ∧ x = y := by
  rw [List.getElem?_append]
  by_cases hi : i < xs.length
  · have hne : i ≠ xs.length := by omega
    simp [hi, hne]
  · have hnone : xs[i]? = none := List.getElem?_eq_none (by omega)
    rw [if_neg hi, hnone]
    by_cases he : i = xs.length
    · subst i
      simp
    · have hpos : i - xs.length ≠ 0 := by omega
      simp [he, hpos]

theorem Moves.frame (mv : Moves s st s') {n : Nat} {c : Context} (h : s.context? n = some c)
    (ht : st.target? ≠ some n) : s'.context? n = some c := by
  cases mv with
  | still => exact h
  | started resource settings choice recurrence cron =>
    rw [context?, startContext_contexts]
    exact context?_of_append h _
  | changed => rwa [setContext_of_ne s (by simpa [Step.target?] using ht)]
  | judged => simpa using h
  | restarted => exact context?_of_append h _
  | merged => exact h
  | finished => rwa [setContext_of_ne s (by simpa [Step.target?] using ht)]

theorem Moves.context (mv : Moves s st s') {n : Nat} {c : Context} (h : s.context? n = some c) :
    ∃ f b, s'.context? n = some { c with focus := f, finished := b } := by
  by_cases ht : st.target? = some n
  · cases mv with
    | still => exact ⟨c.focus, c.finished, h⟩
    | started => simp [Step.target?] at ht
    | @changed k d ch f hk hf =>
      obtain rfl : k = n := Option.some.inj ht
      obtain rfl : d = c := Option.some.inj (hk.symm.trans h)
      exact ⟨f, d.finished, setContext_self s hk _⟩
    | judged => exact ⟨c.focus, c.finished, by simpa using h⟩
    | restarted => exact ⟨c.focus, c.finished, context?_of_append h _⟩
    | merged => exact ⟨c.focus, c.finished, h⟩
    | @finished k d hk hd =>
      obtain rfl : k = n := Option.some.inj ht
      obtain rfl : d = c := Option.some.inj (hk.symm.trans h)
      exact ⟨d.focus, true, setContext_self s hk _⟩
  · exact ⟨c.focus, c.finished, mv.frame h ht⟩

theorem run_context {n : Nat} {c : Context} (h : s.context? n = some c) (steps : List Step) :
    ∃ f b, (s.run steps).context? n = some { c with focus := f, finished := b } := by
  induction steps generalizing s c with
  | nil => exact ⟨c.focus, c.finished, h⟩
  | cons st steps ih =>
    obtain ⟨f, b, h'⟩ := (step_moves s st).context h
    obtain ⟨f', b', h''⟩ := ih h'
    exact ⟨f', b', h''⟩

def Grounded (s : Session) : Prop := ∀ c ∈ s.contexts, c.ledger < s.ledgers.length

theorem Grounded.context? (hs : s.Grounded) {n : Nat} {c : Context}
    (h : s.context? n = some c) : c.ledger < s.ledgers.length :=
  hs c (List.mem_of_getElem? h)

theorem grounded_setContext (hs : s.Grounded) (n : Nat) {c : Context}
    (hc : c.ledger < s.ledgers.length) : (s.setContext n c).Grounded := by
  intro d hd
  rcases List.mem_or_eq_of_mem_set hd with hd | rfl
  · exact hs d hd
  · exact hc

theorem grounded_append (hs : s.Grounded) (n : Nat) (es : List ErrorRecord) :
    (s.append n es).Grounded := by
  intro c hc
  rw [append_ledgers_length]
  exact hs c hc

theorem Moves.length (mv : Moves s st s') : s.ledgers.length ≤ s'.ledgers.length := by
  cases mv with
  | started resource settings choice recurrence cron =>
    rw [startContext_ledgers]
    exact withLedger_length s choice
  | _ => simp [restart]

theorem Moves.grounded (mv : Moves s st s') (hs : s.Grounded) : s'.Grounded := by
  cases mv with
  | still => exact hs
  | started resource settings choice recurrence cron =>
    intro c hc
    rw [startContext_contexts] at hc
    rw [startContext_ledgers]
    rcases List.mem_append.mp hc with hc | hc
    · exact Nat.lt_of_lt_of_le (hs c hc) (withLedger_length s choice)
    · obtain rfl := List.mem_singleton.mp hc
      exact ledgerFor_lt s choice
  | changed h hf =>
    have hl := hs.context? h
    exact grounded_setContext hs _ hl
  | judged q h =>
    refine grounded_append ?_ _ _
    intro c hc
    rw [asking_contexts] at hc
    rw [asking_ledgers]
    exact hs c hc
  | @restarted n c h =>
    intro d hd
    rcases List.mem_append.mp hd with hd | hd
    · exact hs d hd
    · obtain rfl := List.mem_singleton.mp hd
      exact hs.context? (c := c) h
  | merged => exact grounded_append hs _ _
  | finished h hc =>
    have hl := hs.context? h
    exact grounded_setContext hs _ hl

theorem run_grounded (hs : s.Grounded) (steps : List Step) : (s.run steps).Grounded := by
  induction steps generalizing s with
  | nil => exact hs
  | cons st steps ih => exact ih ((step_moves s st).grounded hs)

theorem grounded_initial (libs : Libraries) (ledgers : List (List ErrorRecord)) :
    Grounded (initial libs ledgers) := by
  intro c hc
  simp [initial] at hc

theorem Moves.ledger (mv : Moves s st s') (hs : s.Grounded) (m : Nat) :
    s'.ledger m = s.ledger m ++ s.written m st := by
  cases mv with
  | still h => rw [h, List.append_nil]
  | started => simp [written, startContext_ledger]
  | changed => simp [written]
  | judged q h =>
    rw [ledger_append _ (by simpa using hs.context? h)]
    simp [written, reported, ledgerOf?, h]
  | restarted => simp [written, restart, ledger]
  | @merged n k c other h ho hl =>
    rw [ledger_append _ (hs.context? h)]
    by_cases hm : c.ledger = m
    · have hk : other.ledger ≠ m := fun e => hl (e.trans hm.symm)
      simp [written, ledgerOf?, errors, h, ho, hm, hk]
    · simp [written, ledgerOf?, h, hm]
  | finished => simp [written]

theorem errors_of_context {n : Nat} {c : Context} (h : s.context? n = some c) :
    s.errors n = s.ledger c.ledger := by
  rw [errors, h]
  rfl

theorem reported_length (s : Session) (n : Nat) (q : Inquiry) : (s.reported n q).length ≤ 1 := by
  unfold reported
  cases s.context? n with
  | none => simp
  | some c => exact Verdict.records_length _

theorem errors_judge (hs : s.Grounded) {n : Nat} {c : Context} (h : s.context? n = some c)
    (q : Inquiry) :
    (s.step (.judge n q)).session.errors n = s.errors n ++ s.reported n q := by
  have hl := (step_moves s (.judge n q)).ledger hs c.ledger
  rw [written, ledgerOf_context h, if_pos rfl] at hl
  have hc : (s.step (.judge n q)).session.context? n = some c := by
    rw [step_judge h, judge_session, append_context?, asking_context?, h]
  rw [errors_of_context hc, hl, errors_of_context h]

/-- What a step may do to ledgers, and to the contexts that it is not called on. -/
structure Extends (s : Session) (st : Step) (s' : Session) : Prop where
  length : s.ledgers.length ≤ s'.ledgers.length
  kept : ∀ m, s.ledger m <+: s'.ledger m
  quiet : st.isQuiet = true → ∀ m, s'.ledger m = s.ledger m
  one : ∀ n q, st = .judge n q → (s.reported n q).length ≤ 1
  judged : ∀ n q, st = .judge n q → ∀ m,
    s'.ledger m = s.ledger m ++ if s.ledgerOf? n = some m then s.reported n q else []
  /-- Contexts with one ledger cannot be merged; all others can. -/
  merged : ∀ n k, st = .merge n k → ∀ m,
    s'.ledger m = s.ledger m ++
      if s.ledgerOf? n = some m ∧ s.ledgerOf? k ≠ some m then s.errors k else []
  others : ∀ n c, s.context? n = some c → st.target? ≠ some n → s'.context? n = some c

/-- In every session that is reached, whichever ledgers the caller had at first, the next step
only extends the ledgers. -/
theorem step_extends (libs : Libraries) (ledgers : List (List ErrorRecord)) (before : List Step)
    (st : Step) :
    Extends (run (initial libs ledgers) before) st
      ((run (initial libs ledgers) before).step st).session := by
  have hs := run_grounded (grounded_initial libs ledgers) before
  have mv := step_moves (run (initial libs ledgers) before) st
  constructor
  case length => exact mv.length
  case kept =>
    intro m
    rw [mv.ledger hs]
    exact List.prefix_append _ _
  case quiet =>
    intro hq m
    rw [mv.ledger hs, written_quiet _ hq, List.append_nil]
  case one =>
    intro n q _
    exact reported_length _ n q
  case judged =>
    rintro n q rfl m
    exact mv.ledger hs m
  case merged =>
    rintro n k rfl m
    exact mv.ledger hs m
  case others =>
    intro n c h ht
    exact mv.frame h ht

end Scrutiny.Session
