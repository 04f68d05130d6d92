import Mathlib.Data.List.DropRight
import Scrutiny.Proofs.Session.Turn

/-!
# A context follows from its calls

A context remembers a focus and a ledger. Both are read off the list of calls made on it: each
part of the focus is what the last call that set it has set it to, except that a new field drops
an earlier place in a list, and the ledger grows by what each rule reports on the focus of its
moment. Calls that fail are part of the list and count for nothing.
-/

set_option autoImplicit false

namespace Scrutiny

inductive Call where
  | change (ch : Focus.Change)
  | judge (q : Inquiry)

namespace Call

def on (n : Nat) : Call → Step
  | .change ch => .change n ch
  | .judge q => .judge n q

def resource? : Call → Option (Option String)
  | .change (.resource name) => some name
  | _ => none

def field? : Call → Option (Option String)
  | .change (.field name) => some name
  | _ => none

def value? : Call → Option Value
  | .change (.value v) => some v
  | _ => none

def position? : Call → Option Position
  | .change (.position part index) => do
    return ⟨← Focus.partName? part, ← Focus.index? index⟩
  | _ => none

def skips : Call → Bool
  | .change .skipAbsent => true
  | _ => false

def last {α : Type} (part : Call → Option α) (calls : List Call) : Option α :=
  (calls.filterMap part).getLast?

def sinceField (calls : List Call) : List Call := calls.rtakeWhile fun c => c.field?.isNone

/-- The focus that calls lead to. -/
def focusAfter (resource : Option String) (calls : List Call) : Focus where
  resource := (last resource? calls).getD resource
  field := (last field? calls).getD none
  position := last position? (sinceField calls)
  value := (last value? calls).getD .null
  skipAbsent := calls.any skips

def recordsAt (settings : Settings) (checkers : Checkers) (f : Focus) : Call → List ErrorRecord
  | .change _ => []
  | .judge q => ((q.completed settings).judge checkers f).records

/-- What calls report, each on the focus that the calls before it lead to. -/
def recorded (settings : Settings) (checkers : Checkers) (resource : Option String)
    (calls : List Call) : List ErrorRecord :=
  calls.zipIdx.flatMap fun p =>
    p.1.recordsAt settings checkers (focusAfter resource (calls.take p.2))

theorem last_append {α : Type} (part : Call → Option α) (calls : List Call) (c : Call) :
    last part (calls ++ [c]) = (part c).or (last part calls) := by
  unfold last
  rw [List.filterMap_append, List.getLast?_append]
  cases h : part c <;> simp [h]

theorem sinceField_append_of_none {c : Call} (h : c.field? = none) (calls : List Call) :
    sinceField (calls ++ [c]) = sinceField calls ++ [c] := by
  rw [sinceField, List.rtakeWhile_concat_pos _ _ _ (by simp [h])]
  rfl

theorem sinceField_append_field (name : Option String) (calls : List Call) :
    sinceField (calls ++ [.change (.field name)]) = [] := by
  rw [sinceField, List.rtakeWhile_concat_neg _ _ _ (by simp [field?])]

theorem focusAfter_append_of_none {c : Call} (h : c.field? = none) (resource : Option String)
    (calls : List Call) :
    focusAfter resource (calls ++ [c]) =
      { resource := (c.resource?.or (last resource? calls)).getD resource
        field := (focusAfter resource calls).field
        position := c.position?.or (focusAfter resource calls).position
        value := (c.value?.or (last value? calls)).getD .null
        skipAbsent := (focusAfter resource calls).skipAbsent || c.skips } := by
  simp only [focusAfter, sinceField_append_of_none h, last_append, h, Option.none_or,
    List.any_append, List.any_cons, List.any_nil, Bool.or_false]

theorem readPosition_toOption (f : Focus) (part index : Value) :
    (f.readPosition part index).toOption = position? (.change (.position part index)) := by
  simp only [Focus.readPosition, position?]
  cases Focus.partName? part with
  | none => rfl
  | some name =>
    cases Focus.index? index with
    | none => cases index.shownText <;> rfl
    | some n => rfl

theorem focusAfter_append_ok {resource : Option String} {calls : List Call} {ch : Focus.Change}
    {f : Focus} (h : (focusAfter resource calls).change ch = .ok f) :
    focusAfter resource (calls ++ [.change ch]) = f := by
  cases ch with
  | field name =>
    obtain rfl := Except.ok.inj h
    simp only [focusAfter, sinceField_append_field, last_append, List.any_append, List.any_cons,
      List.any_nil, Bool.or_false]
    simp [Focus.withField, resource?, field?, value?, skips, last]
  | resource name =>
    obtain rfl := Except.ok.inj h
    rw [focusAfter_append_of_none rfl]
    simp [Focus.withResource, focusAfter, resource?, position?, value?, skips]
  | position part index =>
    have hp := readPosition_toOption (focusAfter resource calls) part index
    cases hr : (focusAfter resource calls).readPosition part index with
    | error e => simp [Focus.change, hr, bind, Except.bind] at h
    | ok p =>
      simp only [Focus.change, hr, bind, Except.bind, pure, Except.pure, Except.ok.injEq] at h
      simp only [hr, Except.toOption] at hp
      rw [focusAfter_append_of_none rfl, ← hp, ← h]
      simp [Focus.atPosition, focusAfter, resource?, value?, skips]
  | value v =>
    obtain rfl := Except.ok.inj h
    rw [focusAfter_append_of_none rfl]
    simp [Focus.withValue, focusAfter, resource?, position?, value?, skips]
  | skipAbsent =>
    obtain rfl := Except.ok.inj h
    rw [focusAfter_append_of_none rfl]
    simp [Focus.skippingAbsent, focusAfter, resource?, position?, value?, skips]

theorem focusAfter_append_error {resource : Option String} {calls : List Call}
    {ch : Focus.Change} {e : Fault} (h : (focusAfter resource calls).change ch = .error e) :
    focusAfter resource (calls ++ [.change ch]) = focusAfter resource calls := by
  cases ch with
  | position part index =>
    have hp := readPosition_toOption (focusAfter resource calls) part index
    cases hr : (focusAfter resource calls).readPosition part index with
    | error e =>
      rw [hr] at hp
      rw [focusAfter_append_of_none rfl, ← hp]
      simp [focusAfter, Except.toOption, resource?, value?, skips]
    | ok p => simp [Focus.change, hr, bind, Except.bind, pure, Except.pure] at h
  | _ => cases h

theorem focusAfter_append_judge (resource : Option String) (calls : List Call) (q : Inquiry) :
    focusAfter resource (calls ++ [.judge q]) = focusAfter resource calls := by
  rw [focusAfter_append_of_none rfl]
  simp [focusAfter, resource?, position?, value?, skips]

theorem recorded_append (settings : Settings) (checkers : Checkers) (resource : Option String)
    (calls : List Call) (c : Call) :
    recorded settings checkers resource (calls ++ [c]) =
      recorded settings checkers resource calls ++
        c.recordsAt settings checkers (focusAfter resource calls) := by
  have hold : (calls.zipIdx.flatMap fun p =>
      p.1.recordsAt settings checkers (focusAfter resource ((calls ++ [c]).take p.2))) =
      recorded settings checkers resource calls := by
    simp only [recorded, List.flatMap_def]
    apply congrArg List.flatten
    apply List.map_congr_left
    intro p hp
    have hk : p.2 < calls.length := List.snd_lt_of_mem_zipIdx hp
    rw [List.take_append_of_le_length (Nat.le_of_lt hk)]
  rw [recorded, List.zipIdx_append, List.flatMap_append, hold]
  simp

end Call

namespace Session
open Call

/-- The checkers that a context is made with: the caller's, and real ones for the rest. -/
def checkersOf (l : Libraries) (settings : Settings) (recurrence cron : Option (String → Check)) :
    Checkers :=
  fun form t =>
    let brought := match form with
      | .recurrence => recurrence
      | .cron => cron
    match brought with
    | some answer => .ok (answer t)
    | none => l.checkers settings form t

def firstRecords (s : Session) : LedgerChoice → List ErrorRecord
  | .own => []
  | .existing n => s.ledger n

theorem ledger_of_length_le {s : Session} {n : Nat} (h : s.ledgers.length ≤ n) :
    s.ledger n = [] := by
  simp [ledger, List.getD_eq_getElem?_getD, List.getElem?_eq_none h]

theorem ledger_ledgerFor (s : Session) (choice : LedgerChoice) :
    s.ledger (s.ledgerFor choice) = s.firstRecords choice := by
  have hown : s.ledger s.withOwnLedger.2 = [] := ledger_of_length_le (Nat.le_refl _)
  cases choice with
  | own => exact hown
  | existing n =>
    by_cases hn : n < s.ledgers.length
    · simp [ledgerFor, withLedger, firstRecords, hn]
    · simp [ledgerFor, withLedger, firstRecords, hn, hown,
        ledger_of_length_le (Nat.le_of_not_lt hn)]

section
variable (n : Nat) (settings : Settings) (checkers : Checkers) (resource : Option String)
  (first : List ErrorRecord)

structure Follows (calls : List Call) (s : Session) (c : Context) : Prop where
  found : s.context? n = some c
  settled : c.settings = settings
  examined : s.checkers c = checkers
  grounded : c.ledger < s.ledgers.length
  focused : c.focus = focusAfter resource calls
  written : s.ledger c.ledger = first ++ recorded settings checkers resource calls

variable {n settings checkers resource first}

theorem follows_change {calls : List Call} {s : Session} {c : Context}
    (h : Follows n settings checkers resource first calls s c) (ch : Focus.Change) :
    ∃ c', Follows n settings checkers resource first (calls ++ [.change ch])
      (s.step (.change n ch)).session c' := by
  have hrec := recorded_append settings checkers resource calls (.change ch)
  rw [recordsAt, List.append_nil] at hrec
  rw [step_change h.found]
  cases hf : c.focus.change ch with
  | ok f =>
    rw [changeFocus_ok hf]
    rw [h.focused] at hf
    refine ⟨{ c with focus := f }, ⟨setContext_self s h.found _, h.settled, h.examined,
      h.grounded, (focusAfter_append_ok hf).symm, ?_⟩⟩
    rw [hrec]
    exact h.written
  | error e =>
    rw [changeFocus_error hf]
    rw [h.focused] at hf
    refine ⟨c, ⟨h.found, h.settled, h.examined, h.grounded, ?_, ?_⟩⟩
    · rw [focusAfter_append_error hf]
      exact h.focused
    · rw [hrec]
      exact h.written

theorem follows_judge {calls : List Call} {s : Session} {c : Context}
    (h : Follows n settings checkers resource first calls s c) (q : Inquiry) :
    Follows n settings checkers resource first (calls ++ [.judge q])
      (s.step (.judge n q)).session c := by
  rw [step_judge h.found, judge_session]
  refine ⟨by simpa using h.found, h.settled, by simpa using h.examined,
    by simpa using h.grounded, ?_, ?_⟩
  · rw [focusAfter_append_judge]
    exact h.focused
  · rw [ledger_append _ (by simpa using h.grounded), asking_ledger, if_pos rfl, h.written,
      recorded_append, recordsAt, verdict, h.settled, h.examined, h.focused, List.append_assoc]

theorem follows_run {before : List Call} {s : Session} {c : Context}
    (h : Follows n settings checkers resource first before s c) (calls : List Call) :
    ∃ c', Follows n settings checkers resource first (before ++ calls)
      (s.run (calls.map (Call.on n))) c' := by
  induction calls generalizing before s c with
  | nil => exact ⟨c, by simpa using h⟩
  | cons call calls ih =>
    obtain ⟨c', h'⟩ : ∃ c', Follows n settings checkers resource first (before ++ [call])
        (s.step (call.on n)).session c' := by
      cases call with
      | change ch => exact follows_change h ch
      | judge q => exact ⟨c, follows_judge h q⟩
    simpa using ih h'

end

theorem startContext_checkers (s : Session) (resource : Option String) (settings : Settings)
    (choice : LedgerChoice) (recurrence cron : Option (String → Check)) (n : Nat) (f : Focus)
    (b : Bool) :
    (s.startContext resource settings choice recurrence cron).checkers
        ⟨f, settings, n, s.examinersFor recurrence cron, b⟩ =
      checkersOf s.libraries settings recurrence cron := by
  funext form t
  cases form <;> cases recurrence <;> cases cron <;>
    simp [checkers, examine, examinersFor, withSubstitute, checkersOf, startContext_substitutes,
      startContext_libraries]

theorem follows_start (s : Session) (resource : Option String) (settings : Settings)
    (choice : LedgerChoice) (recurrence cron : Option (String → Check)) :
    ∃ c, Follows s.contexts.length settings (checkersOf s.libraries settings recurrence cron)
      resource (s.firstRecords choice) []
      (s.startContext resource settings choice recurrence cron) c := by
  refine ⟨⟨{ resource }, settings, s.ledgerFor choice, s.examinersFor recurrence cron, false⟩,
    ?_, rfl, ?_, ?_, rfl, ?_⟩
  · rw [context?, startContext_contexts]
    simp
  · exact startContext_checkers s resource settings choice recurrence cron _ _ _
  · rw [startContext_ledgers]
    exact ledgerFor_lt s choice
  · rw [startContext_ledger, ledger_ledgerFor]
    simp [recorded]

theorem Follows.failed {n : Nat} {settings : Settings} {checkers : Checkers}
    {resource : Option String} {first : List ErrorRecord} {calls : List Call} {s : Session}
    {c : Context} (h : Follows n settings checkers resource first calls s c) {call : Call}
    (hf : (s.step (call.on n)).fault ≠ none) :
    recorded settings checkers resource (calls ++ [call]) =
        recorded settings checkers resource calls ∧
      focusAfter resource (calls ++ [call]) = focusAfter resource calls := by
  rw [recorded_append]
  cases call with
  | change ch =>
    rw [Call.on, step_change h.found] at hf
    cases hc : c.focus.change ch with
    | ok f =>
      rw [changeFocus_ok hc] at hf
      exact absurd rfl hf
    | error e =>
      rw [h.focused] at hc
      exact ⟨List.append_nil _, focusAfter_append_error hc⟩
  | judge q =>
    rw [Call.on, step_judge h.found, judge_fault, verdict, h.settled, h.examined, h.focused] at hf
    refine ⟨?_, focusAfter_append_judge resource calls q⟩
    rw [recordsAt, Verdict.records_of_fault hf, List.append_nil]

/-- Whatever is done with a context, its records are those it found, followed by what each rule
reports on the focus that the calls before it lead to. -/
theorem errors_of_calls (s : Session) (resource : Option String) (settings : Settings)
    (choice : LedgerChoice) (recurrence cron : Option (String → Check)) (calls : List Call) :
    let n := s.contexts.length
    let checkers := checkersOf s.libraries settings recurrence cron
    let started := (s.step (.start resource settings choice recurrence cron)).session
    let after := started.run (calls.map (Call.on n))
    after.errors n = s.firstRecords choice ++ recorded settings checkers resource calls ∧
      after.focus? n = some (focusAfter resource calls) ∧
      ∀ call : Call, (after.step (call.on n)).fault ≠ none →
        recorded settings checkers resource (calls ++ [call]) =
            recorded settings checkers resource calls ∧
          focusAfter resource (calls ++ [call]) = focusAfter resource calls := by
  intro n checkers started after
  obtain ⟨c₀, h₀⟩ := follows_start s resource settings choice recurrence cron
  obtain ⟨c, h⟩ := follows_run h₀ calls
  rw [List.nil_append] at h
  have hc : after.context? n = some c := h.found
  refine ⟨?_, ?_, fun call hf => h.failed hf⟩
  · rw [errors, hc]
    exact h.written
  · rw [focus?, hc, Option.map_some, h.focused]

end Session
end Scrutiny
