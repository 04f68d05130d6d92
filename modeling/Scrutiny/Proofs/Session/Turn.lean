import Scrutiny.Session.Step

/-!
# What a step does

Each operation of a session is described once: what it appends to which ledger, what becomes of
the context that it is called on, and when it fails. What is said of steps and of whole runs is
derived from these descriptions, so that no later proof opens an operation.
-/

set_option autoImplicit false

namespace Scrutiny

def Verdict.records : Verdict → List ErrorRecord
  | .ok (some e) => [e]
  | _ => []

def Verdict.fault? : Verdict → Option Fault
  | .error f => some f
  | .ok _ => none

theorem Verdict.records_length (v : Verdict) : v.records.length ≤ 1 := by
  unfold Verdict.records
  split <;> simp

theorem Verdict.records_of_fault {v : Verdict} (h : v.fault? ≠ none) : v.records = [] := by
  cases v with
  | error f => rfl
  | ok r => exact absurd rfl h

def Step.target? : Step → Option Nat
  | .start .. => none
  | .change n _ => some n
  | .judge n _ => some n
  | .restart n => some n
  | .merge n _ => some n
  | .finish n => some n

/-- Only judging and merging write. Looking at a session is no step at all. -/
def Step.isQuiet : Step → Bool
  | .judge .. => false
  | .merge .. => false
  | _ => true

def Context.question? (c : Context) (q : Inquiry) : Option (ScheduleForm × String) :=
  ((q.completed c.settings).question c.focus).toOption.join

def Context.isClosed (c : Context) : Bool := c.finished && c.settings.finishOnce.isTrue

def Libraries.lenient : Libraries := ⟨fun _ => .ok (), fun _ => true⟩

namespace Session

def focus? (s : Session) (n : Nat) : Option Focus := (s.context? n).map Context.focus

def ledgerOf? (s : Session) (n : Nat) : Option Nat := (s.context? n).map Context.ledger

def verdict (s : Session) (c : Context) (q : Inquiry) : Verdict :=
  (q.completed c.settings).judge (s.checkers c) c.focus

def reported (s : Session) (n : Nat) (q : Inquiry) : List ErrorRecord :=
  ((s.context? n).map fun c => (s.verdict c q).records).getD []

theorem append_nil (s : Session) (n : Nat) : s.append n [] = s := by
  have h : (fun es : List ErrorRecord => es ++ []) = id := by
    funext es
    exact List.append_nil es
  rw [append, h, List.modify_id]

@[simp] theorem append_ledgers_length (s : Session) (n : Nat) (es : List ErrorRecord) :
    (s.append n es).ledgers.length = s.ledgers.length := by
  simp [append]

@[simp] theorem append_context? (s : Session) (n m : Nat) (es : List ErrorRecord) :
    (s.append n es).context? m = s.context? m := rfl

@[simp] theorem setContext_ledger (s : Session) (n m : Nat) (c : Context) :
    (s.setContext n c).ledger m = s.ledger m := rfl

theorem ledger_append (s : Session) {n : Nat} (h : n < s.ledgers.length) (m : Nat)
    (es : List ErrorRecord) :
    (s.append n es).ledger m = s.ledger m ++ if n = m then es else [] := by
  by_cases hm : n = m
  · subst m
    simp [ledger_append_self s h]
  · simp [ledger_append_of_ne s hm, hm]

theorem setContext_context? (s : Session) (n m : Nat) (c : Context) :
    (s.setContext n c).context? m =
      if n = m then (s.context? m).map (fun _ => c) else s.context? m := by
  rw [context?, setContext, List.getElem?_set']
  rfl

theorem setContext_self (s : Session) {n : Nat} {old : Context} (h : s.context? n = some old)
    (c : Context) : (s.setContext n c).context? n = some c := by
  rw [setContext_context?, if_pos rfl, h, Option.map_some]

theorem setContext_of_ne (s : Session) {n m : Nat} (h : n ≠ m) (c : Context) :
    (s.setContext n c).context? m = s.context? m := by
  rw [setContext_context?, if_neg h]

@[simp] theorem asking_ledgers (s : Session) (c : Context)
    (q : Option (ScheduleForm × String)) : (s.asking c q).ledgers = s.ledgers := by
  unfold asking ask
  split
  · rfl
  · split <;> rfl

@[simp] theorem asking_contexts (s : Session) (c : Context)
    (q : Option (ScheduleForm × String)) : (s.asking c q).contexts = s.contexts := by
  unfold asking ask
  split
  · rfl
  · split <;> rfl

@[simp] theorem asking_context? (s : Session) (c : Context)
    (q : Option (ScheduleForm × String)) (m : Nat) :
    (s.asking c q).context? m = s.context? m := by
  simp [context?]

@[simp] theorem asking_ledger (s : Session) (c : Context) (q : Option (ScheduleForm × String))
    (m : Nat) : (s.asking c q).ledger m = s.ledger m := by
  simp [ledger]

theorem ask_examine (s : Session) (e : Examiner) (t : String) :
    (s.ask e t).examine = s.examine := by
  cases e with
  | real => rfl
  | substitute k =>
    funext settings e form u
    cases e with
    | real => rfl
    | substitute l =>
      by_cases hk : k = l
      · subst l
        cases h : s.substitutes[k]? <;> simp [ask, examine, h]
      · simp [ask, examine, hk]

@[simp] theorem asking_checkers (s : Session) (c d : Context)
    (q : Option (ScheduleForm × String)) : (s.asking c q).checkers d = s.checkers d := by
  unfold checkers asking
  split
  · rfl
  · rw [ask_examine]

@[simp] theorem append_checkers (s : Session) (n : Nat) (es : List ErrorRecord) (c : Context) :
    (s.append n es).checkers c = s.checkers c := rfl

theorem changeFocus_ok {s : Session} {n : Nat} {c : Context} {ch : Focus.Change} {f : Focus}
    (h : c.focus.change ch = .ok f) :
    s.changeFocus n c ch = (s.setContext n { c with focus := f }).still := by
  simp [changeFocus, h]

theorem changeFocus_error {s : Session} {n : Nat} {c : Context} {ch : Focus.Change} {e : Fault}
    (h : c.focus.change ch = .error e) : s.changeFocus n c ch = s.refusing e := by
  simp [changeFocus, h]

/-- The verdict decides what is appended; the question alone decides what is asked. -/
theorem judge_eq (s : Session) (c : Context) (q : Inquiry) :
    s.judge c q =
      { session := (s.asking c (c.question? q)).append c.ledger (s.verdict c q).records
        notes := checkNotes (s.checkers c) c (c.question? q) ++
          (s.verdict c q).records.map .recorded
        fault := (s.verdict c q).fault? } := by
  simp only [judge, Context.question?, verdict]
  split <;> simp_all [Verdict.records, Verdict.fault?, append_nil]

theorem judge_session (s : Session) (c : Context) (q : Inquiry) :
    (s.judge c q).session =
      (s.asking c (c.question? q)).append c.ledger (s.verdict c q).records := by
  rw [judge_eq]

theorem judge_fault (s : Session) (c : Context) (q : Inquiry) :
    (s.judge c q).fault = (s.verdict c q).fault? := by
  rw [judge_eq]

theorem merge_shared {s : Session} {c other : Context} (h : other.ledger = c.ledger) :
    s.merge c other = s.refusing (.refused (.sharedMerge c.focus.resource)) := by
  simp [merge, h]

theorem merge_session {s : Session} {c other : Context} (h : other.ledger ≠ c.ledger) :
    (s.merge c other).session = s.append c.ledger (s.ledger other.ledger) := by
  simp [merge, h]

theorem merge_fault {s : Session} {c other : Context} (h : other.ledger ≠ c.ledger) :
    (s.merge c other).fault = none := by
  simp [merge, h]

theorem finish_closed {s : Session} {n : Nat} {c : Context} (h : c.isClosed = true) :
    s.finish n c = s.refusing (.refused (.finishedTwice c.focus.resource)) := by
  unfold Context.isClosed at h
  simp [finish, h]

theorem finish_session {s : Session} {n : Nat} {c : Context} (h : c.isClosed = false) :
    (s.finish n c).session = s.setContext n { c with finished := true } := by
  unfold Context.isClosed at h
  simp only [finish, h, Bool.false_eq_true, if_false]
  split <;> rfl

theorem finish_fault {s : Session} {n : Nat} {c : Context} (h : c.isClosed = false) :
    (s.finish n c).fault =
      if s.ledger c.ledger = [] then none else some (.violations (s.ledger c.ledger)) := by
  unfold Context.isClosed at h
  simp only [finish, h, Bool.false_eq_true, if_false]
  split <;> simp_all [still]

def ledgerFor (s : Session) (choice : LedgerChoice) : Nat := (s.withLedger choice).2

@[simp] theorem withLedger_contexts (s : Session) (choice : LedgerChoice) :
    (s.withLedger choice).1.contexts = s.contexts := by
  unfold withLedger
  split
  · rfl
  · split <;> rfl

@[simp] theorem withLedger_substitutes (s : Session) (choice : LedgerChoice) :
    (s.withLedger choice).1.substitutes = s.substitutes := by
  unfold withLedger
  split
  · rfl
  · split <;> rfl

@[simp] theorem withLedger_libraries (s : Session) (choice : LedgerChoice) :
    (s.withLedger choice).1.libraries = s.libraries := by
  unfold withLedger
  split
  · rfl
  · split <;> rfl

theorem withOwnLedger_ledger (s : Session) (m : Nat) :
    s.withOwnLedger.1.ledger m = s.ledger m := by
  simp only [withOwnLedger, ledger, List.getD_eq_getElem?_getD, List.getElem?_append]
  by_cases hm : m < s.ledgers.length
  · simp [hm]
  · by_cases he : m - s.ledgers.length = 0 <;> simp [hm, he]

theorem withLedger_ledger (s : Session) (choice : LedgerChoice) (m : Nat) :
    (s.withLedger choice).1.ledger m = s.ledger m := by
  unfold withLedger
  split
  · exact withOwnLedger_ledger s m
  · split
    · rfl
    · exact withOwnLedger_ledger s m

theorem withLedger_length (s : Session) (choice : LedgerChoice) :
    s.ledgers.length ≤ (s.withLedger choice).1.ledgers.length := by
  unfold withLedger
  split
  · simp [withOwnLedger]
  · split <;> simp [withOwnLedger]

theorem ledgerFor_lt (s : Session) (choice : LedgerChoice) :
    s.ledgerFor choice < (s.withLedger choice).1.ledgers.length := by
  unfold ledgerFor withLedger
  split
  · simp [withOwnLedger]
  · split
    · assumption
    · simp [withOwnLedger]

@[simp] theorem withSubstitute_contexts (s : Session) (o : Option (String → Check)) :
    (s.withSubstitute o).1.contexts = s.contexts := by
  cases o <;> rfl

@[simp] theorem withSubstitute_ledgers (s : Session) (o : Option (String → Check)) :
    (s.withSubstitute o).1.ledgers = s.ledgers := by
  cases o <;> rfl

@[simp] theorem withSubstitute_libraries (s : Session) (o : Option (String → Check)) :
    (s.withSubstitute o).1.libraries = s.libraries := by
  cases o <;> rfl

def examinersFor (s : Session) (recurrence cron : Option (String → Check)) :
    ScheduleForm → Examiner
  | .recurrence => (s.withSubstitute recurrence).2
  | .cron => ((s.withSubstitute recurrence).1.withSubstitute cron).2

theorem examinersFor_congr {a b : Session} (h : a.substitutes = b.substitutes)
    (recurrence cron : Option (String → Check)) :
    a.examinersFor recurrence cron = b.examinersFor recurrence cron := by
  funext form
  cases form <;> cases recurrence <;> cases cron <;> simp [examinersFor, withSubstitute, h]

section
variable (s : Session) (resource : Option String) (settings : Settings) (choice : LedgerChoice)
  (recurrence cron : Option (String → Check))

theorem startContext_ledgers :
    (s.startContext resource settings choice recurrence cron).ledgers =
      (s.withLedger choice).1.ledgers := by
  simp [startContext]

theorem startContext_contexts :
    (s.startContext resource settings choice recurrence cron).contexts =
      s.contexts ++ [⟨{ resource }, settings, s.ledgerFor choice,
        s.examinersFor recurrence cron, false⟩] := by
  have he := examinersFor_congr (withLedger_substitutes s choice) recurrence cron
  simp only [startContext, withSubstitute_contexts, withLedger_contexts, ← he]
  congr

theorem startContext_libraries :
    (s.startContext resource settings choice recurrence cron).libraries = s.libraries := by
  simp [startContext]

theorem startContext_substitutes :
    (s.startContext resource settings choice recurrence cron).substitutes =
      s.substitutes ++ recurrence.toList.map (⟨·, []⟩) ++ cron.toList.map (⟨·, []⟩) := by
  cases recurrence <;> cases cron <;> simp [startContext, withSubstitute]

theorem startContext_ledger (m : Nat) :
    (s.startContext resource settings choice recurrence cron).ledger m = s.ledger m := by
  rw [ledger, startContext_ledgers]
  exact withLedger_ledger s choice m

end

theorem step_change {s : Session} {n : Nat} {c : Context} (h : s.context? n = some c)
    (ch : Focus.Change) : s.step (.change n ch) = s.changeFocus n c ch := by
  simp [step, withContext, h]

theorem step_judge {s : Session} {n : Nat} {c : Context} (h : s.context? n = some c)
    (q : Inquiry) : s.step (.judge n q) = s.judge c q := by
  simp [step, withContext, h]

theorem step_restart {s : Session} {n : Nat} {c : Context} (h : s.context? n = some c) :
    s.step (.restart n) = s.restart c := by
  simp [step, withContext, h]

theorem step_merge {s : Session} {n k : Nat} {c other : Context} (h : s.context? n = some c)
    (ho : s.context? k = some other) : s.step (.merge n k) = s.merge c other := by
  simp [step, withContext, h, ho]

theorem step_finish {s : Session} {n : Nat} {c : Context} (h : s.context? n = some c) :
    s.step (.finish n) = s.finish n c := by
  simp [step, withContext, h]

theorem step_missing {s : Session} {st : Step} {n : Nat} (ht : st.target? = some n)
    (h : s.context? n = none) : s.step st = s.still := by
  cases st <;> simp_all [Step.target?, step, withContext]

/-- What holds of doing nothing holds of a step once it holds where the context exists. -/
theorem step_elim {P : Turn → Prop} {s : Session} {st : Step} {n : Nat}
    (ht : st.target? = some n) (missing : s.context? n = none → P s.still)
    (found : ∀ c, s.context? n = some c → P (s.step st)) : P (s.step st) := by
  cases h : s.context? n with
  | none =>
    rw [step_missing ht h]
    exact missing h
  | some c => exact found c h

theorem step_merge_missing {s : Session} {n k : Nat} (h : s.context? k = none) :
    s.step (.merge n k) = s.still := by
  simp only [step, withContext, h]
  split <;> rfl

def written (s : Session) (m : Nat) : Step → List ErrorRecord
  | .judge n q => if s.ledgerOf? n = some m then s.reported n q else []
  | .merge n k =>
    if s.ledgerOf? n = some m ∧ s.ledgerOf? k ≠ some m then s.errors k else []
  | _ => []

theorem written_quiet (s : Session) {st : Step} (h : st.isQuiet = true) (m : Nat) :
    s.written m st = [] := by
  cases st <;> simp_all [Step.isQuiet, written]

theorem written_missing {s : Session} {st : Step} {n : Nat} (ht : st.target? = some n)
    (h : s.context? n = none) (m : Nat) : s.written m st = [] := by
  have hn : s.ledgerOf? n = none := by simp [ledgerOf?, h]
  cases st <;> simp_all [Step.target?, written]

/-- All that a step can do to a session. A step that does nothing had nothing to write. -/
inductive Moves (s : Session) : Step → Session → Prop where
  | still {st : Step} (h : ∀ m, s.written m st = []) : Moves s st s
  | started (resource : Option String) (settings : Settings) (choice : LedgerChoice)
      (recurrence cron : Option (String → Check)) :
      Moves s (.start resource settings choice recurrence cron)
        (s.startContext resource settings choice recurrence cron)
  | changed {n : Nat} {c : Context} {ch : Focus.Change} {f : Focus}
      (h : s.context? n = some c) (hf : c.focus.change ch = .ok f) :
      Moves s (.change n ch) (s.setContext n { c with focus := f })
  | judged {n : Nat} {c : Context} (q : Inquiry) (h : s.context? n = some c) :
      Moves s (.judge n q)
        ((s.asking c (c.question? q)).append c.ledger (s.verdict c q).records)
  | restarted {n : Nat} {c : Context} (h : s.context? n = some c) :
      Moves s (.restart n) (s.restart c).session
  | merged {n k : Nat} {c other : Context} (h : s.context? n = some c)
      (ho : s.context? k = some other) (hl : other.ledger ≠ c.ledger) :
      Moves s (.merge n k) (s.append c.ledger (s.ledger other.ledger))
  | finished {n : Nat} {c : Context} (h : s.context? n = some c) (hc : c.isClosed = false) :
      Moves s (.finish n) (s.setContext n { c with finished := true })

theorem moves_change {s : Session} {n : Nat} {c : Context} (h : s.context? n = some c)
    (ch : Focus.Change) : Moves s (.change n ch) (s.step (.change n ch)).session := by
  rw [step_change h]
  cases hf : c.focus.change ch with
  | ok f =>
    rw [changeFocus_ok hf]
    exact .changed h hf
  | error e =>
    rw [changeFocus_error hf]
    exact .still fun m => rfl

theorem moves_merge {s : Session} {n k : Nat} {c : Context} (h : s.context? n = some c) :
    Moves s (.merge n k) (s.step (.merge n k)).session := by
  cases ho : s.context? k with
  | none =>
    rw [step_merge_missing ho]
    exact .still fun m => by simp [written, errors, ho]
  | some other =>
    rw [step_merge h ho]
    by_cases hl : other.ledger = c.ledger
    · rw [merge_shared hl]
      exact .still fun m => by simp [written, ledgerOf?, h, ho, hl]
    · rw [merge_session hl]
      exact .merged h ho hl

theorem moves_finish {s : Session} {n : Nat} {c : Context} (h : s.context? n = some c) :
    Moves s (.finish n) (s.step (.finish n)).session := by
  rw [step_finish h]
  cases hc : c.isClosed with
  | true =>
    rw [finish_closed hc]
    exact .still fun m => rfl
  | false =>
    rw [finish_session hc]
    exact .finished h hc

theorem moves_of_found {s : Session} {st : Step} {n : Nat} (ht : st.target? = some n)
    (found : ∀ c, s.context? n = some c → Moves s st (s.step st).session) :
    Moves s st (s.step st).session :=
  step_elim (P := fun t => Moves s st t.session) ht
    (fun h => .still (written_missing ht h)) found

theorem step_moves (s : Session) (st : Step) : Moves s st (s.step st).session := by
  cases st with
  | start resource settings choice recurrence cron => exact .started ..
  | change n ch => exact moves_of_found rfl fun c h => moves_change h ch
  | judge n q =>
    refine moves_of_found rfl fun c h => ?_
    rw [step_judge h, judge_session]
    exact .judged q h
  | restart n =>
    refine moves_of_found rfl fun c h => ?_
    rw [step_restart h]
    exact .restarted h
  | merge n k => exact moves_of_found rfl fun c h => moves_merge h
  | finish n => exact moves_of_found rfl fun c h => moves_finish h

end Session
end Scrutiny
