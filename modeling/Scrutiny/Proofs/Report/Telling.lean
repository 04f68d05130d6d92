import Scrutiny.Proofs.Report.Naming
import Scrutiny.Proofs.Rule.Spelling
import Scrutiny.Proofs.Session.Ending

/-!
# Reports on violations

A report is made by reading it, item by item, from the records of a failure, and reading can
reject what is no text. The records of a session are spelled out by the rules that report them,
and no step changes one, so that every failing end of a context has its report, with an item for
each record that tells what the record does.
-/

set_option autoImplicit false

namespace Scrutiny

namespace Report

/-- What an item has to tell of a record. -/
structure Item.Tells (i : Item) (r : ErrorRecord) : Prop where
  developer : r.message = .text i.developerMessage
  user : r.message = .text i.userMessage
  code : r.code = .text i.code
  parameter : r.field = .text i.parameter
  value : i.value = r.rejected
  args : i.args = r.args

theorem Item.ofRecord_spelled {r : ErrorRecord} (h : r.IsSpelled) :
    ∃ i, Item.ofRecord r = .ok i ∧ i.Tells r := by
  cases h with
  | mk code message field rejected args =>
    -- What is read for a record is what the item would be written as for programs.
    refine ⟨⟨message, message, code, field, rejected, args⟩, ?_, rfl, rfl, rfl, rfl, rfl, rfl⟩
    exact congrArg settle (readItem_written [] _ _
      (Item.isWritten_toValue .programs ⟨message, message, code, field, _, args⟩))

theorem items_spelled {es : List ErrorRecord} (h : ∀ e ∈ es, e.IsSpelled) :
    ∃ items, es.mapM Item.ofRecord = .ok items ∧ List.Forall₂ Item.Tells items es := by
  induction es with
  | nil => exact ⟨[], rfl, .nil⟩
  | cons e es ih =>
    obtain ⟨he, hes⟩ := List.forall_mem_cons.1 h
    obtain ⟨i, hi, ht⟩ := Item.ofRecord_spelled he
    obtain ⟨items, his, hts⟩ := ih hes
    refine ⟨i :: items, ?_, .cons ht hts⟩
    rw [List.mapM_cons, hi, his]
    rfl

theorem ofViolations_spelled {es : List ErrorRecord} (h : ∀ e ∈ es, e.IsSpelled) :
    ∃ r, ofFailure (.ofViolations es) es = .ok r ∧ List.Forall₂ Item.Tells r.errors es := by
  obtain ⟨items, hi, ht⟩ := items_spelled h
  refine ⟨⟨standardMessage, "400", violationsMessage, (FailureKind.violations es).code, items⟩,
    ?_, ht⟩
  rw [ofFailure, status_ofViolations, hi]
  rfl

end Report

namespace Session

/-- Every record in every ledger is spelled out. -/
def IsSpelled (s : Session) : Prop := ∀ m, ∀ e ∈ s.ledger m, e.IsSpelled

theorem spelled_initial (libs : Libraries) {ledgers : List (List ErrorRecord)}
    (h : ∀ es ∈ ledgers, ∀ e ∈ es, e.IsSpelled) : IsSpelled (initial libs ledgers) := by
  intro m e he
  rw [ledger, initial, List.getD_eq_getElem?_getD] at he
  cases hm : ledgers[m]? with
  | none => simp [hm] at he
  | some es =>
    rw [hm] at he
    exact h es (List.mem_of_getElem? hm) e he

variable {s : Session}

theorem reported_spelled (s : Session) (n : Nat) (q : Inquiry) :
    ∀ e ∈ s.reported n q, e.IsSpelled := by
  intro e he
  unfold reported at he
  cases h : s.context? n with
  | none => simp [h] at he
  | some c =>
    rw [h, Option.map_some, Option.getD_some] at he
    unfold Verdict.records at he
    split at he
    · rename_i e' hv
      obtain rfl := List.mem_singleton.1 he
      exact (q.completed c.settings).judge_spelled c.focus (s.checkers c) e hv
    · cases he

theorem IsSpelled.errors (h : s.IsSpelled) (n : Nat) : ∀ e ∈ s.errors n, e.IsSpelled := by
  intro e he
  unfold Session.errors at he
  cases hc : s.context? n with
  | none => simp [hc] at he
  | some c =>
    rw [hc] at he
    exact h c.ledger e he

theorem IsSpelled.written (h : s.IsSpelled) (st : Step) (m : Nat) :
    ∀ e ∈ s.written m st, e.IsSpelled := by
  intro e he
  cases st with
  | judge n q =>
    simp only [Session.written] at he
    split at he
    · exact reported_spelled s n q e he
    · cases he
  | merge n k =>
    simp only [Session.written] at he
    split at he
    · exact h.errors k e he
    · cases he
  | _ => cases he

theorem IsSpelled.step (h : s.IsSpelled) (hs : s.Grounded) (st : Step) :
    (s.step st).session.IsSpelled := by
  intro m e he
  rw [(step_moves s st).ledger hs] at he
  rcases List.mem_append.1 he with he | he
  · exact h m e he
  · exact h.written st m e he

theorem IsSpelled.run (h : s.IsSpelled) (hs : s.Grounded) (steps : List Step) :
    (s.run steps).IsSpelled := by
  induction steps generalizing s with
  | nil => exact h
  | cons st steps ih => exact ih (h.step hs st) ((step_moves s st).grounded hs)

theorem errors_of_finish {n : Nat} {es : List ErrorRecord}
    (h : (s.step (.finish n)).fault = some (.violations es)) : es = s.errors n := by
  cases hc : s.context? n with
  | none =>
    rw [step_missing rfl hc] at h
    cases h
  | some c =>
    rw [step_finish hc] at h
    rw [errors_of_context hc]
    cases hl : c.isClosed with
    | true =>
      rw [finish_closed hl] at h
      cases h
    | false =>
      rw [finish_fault hl] at h
      split at h
      · cases h
      · exact (Fault.violations.inj (Option.some.inj h)).symm

/-- Whatever has been done in a session, if the end of a context fails with violations, these are
all the records that the context sees. The failure has them as dictionaries in its details, and
its report can be made: it has an item for each record, in the same order, with the texts of the
record, its refused value as it is and its arguments one by one. -/
theorem finish_reported (libs : Libraries) (ledgers : List (List ErrorRecord))
    (hl : ∀ es ∈ ledgers, ∀ e ∈ es, e.IsSpelled) (steps : List Step) (n : Nat)
    (es : List ErrorRecord)
    (h : ((run (initial libs ledgers) steps).step (.finish n)).fault = some (.violations es)) :
    es = (run (initial libs ledgers) steps).errors n ∧
    ∃ failure r, (Fault.violations es).failure? = some failure ∧
      failure.details = .list (es.map ErrorRecord.toValue) ∧
      Report.ofFailure failure es = .ok r ∧ List.Forall₂ Report.Item.Tells r.errors es := by
  have hs := (spelled_initial libs hl).run (grounded_initial libs ledgers) steps
  have hes := errors_of_finish h
  have hspelled : ∀ e ∈ es, e.IsSpelled := by
    rw [hes]
    exact hs.errors n
  obtain ⟨r, hr, ht⟩ := Report.ofViolations_spelled hspelled
  exact ⟨hes, .ofViolations es, r, rfl, rfl, hr, ht⟩

theorem finish_reported_twice :
    let steps : List Step := [.start (some "loan") {} .own none none,
      .judge 0 (.rule (.required .present)),
      .judge 0 (.rule (.outright (.withCode "too.late" [.int 3, .tuple [.null, .bool true]])))]
    ∃ es, ((run (initial .lenient []) steps).step (.finish 0)).fault = some (.violations es) ∧
      es.length = 2 ∧
      ∃ failure r, (Fault.violations es).failure? = some failure ∧
        Report.ofFailure failure es = .ok r ∧ List.Forall₂ Report.Item.Tells r.errors es := by
  intro steps
  obtain ⟨-, failure, r, hf, -, hr, ht⟩ :=
    finish_reported .lenient [] (fun es hes => nomatch hes) steps 0 _ rfl
  exact ⟨_, rfl, rfl, failure, r, hf, hr, ht⟩

end Session
end Scrutiny
