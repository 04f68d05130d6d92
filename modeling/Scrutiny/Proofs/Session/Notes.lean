import Scrutiny.Proofs.Report.Telling
import Scrutiny.Proofs.Session.Parties

/-!
# What the notes of a session tell

Those who watch a session see no records. They see texts, the level of each and where it comes
from, and by these they pick out the lines on violations, the lines on merges and the lines on
failed ends. This module compares what they see with what the ledgers get. A judgement has a line
for each record that it adds. The records that a merge adds have been told of, if at all, when a
judgement added them elsewhere, so a merge tells no more than how many they are.
-/

set_option autoImplicit false

namespace Scrutiny

inductive ErrorRecord.ToldBy : ErrorRecord → String → Prop
  | mk (code message field : String) (rejected : Value) (args : List Value) :
      ToldBy ⟨.text code, .text message, .text field, rejected, args⟩
        ("validation error " ++ code ++ " on " ++ field)

namespace Note

/-- What a watcher takes for the report of a violation. -/
def isOnViolation (n : Note) : Bool :=
  !n.isFromChecker && !n.isInformation && "validation error ".toList.isPrefixOf n.message.toList

def violationLines (notes : List Note) : List String := (notes.filter isOnViolation).map message

theorem isPrefixOf_append (a b : String) : a.toList.isPrefixOf (a ++ b).toList = true := by
  rw [String.toList_append, List.isPrefixOf_iff_prefix]
  exact List.prefix_append _ _

theorem not_isPrefixOf_append {a b : String} {c d : Char} (ha : a.toList.head? = some c)
    (hb : b.toList.head? = some d) (hcd : c ≠ d) (t : String) :
    a.toList.isPrefixOf (b ++ t).toList = false := by
  obtain ⟨u, hu⟩ := List.head?_eq_some_iff.mp ha
  obtain ⟨v, hv⟩ := List.head?_eq_some_iff.mp hb
  rw [String.toList_append, hu, hv, List.cons_append, List.isPrefixOf_cons_cons]
  simp [hcd]

theorem message_recorded (e : ErrorRecord) :
    (recorded e).message = "validation error " ++ valueText e.code ++ " on " ++ valueText e.field :=
  rfl

theorem isOnViolation_eq (n : Note) : n.isOnViolation = n.record?.isSome := by
  cases n with
  | recorded e =>
    rw [isOnViolation, message_recorded, String.append_assoc, String.append_assoc,
      isPrefixOf_append]
    rfl
  | restarted resource =>
    have hm : (restarted resource).message =
        "reset validation context for resource " ++ fieldName resource := rfl
    have hp := not_isPrefixOf_append (a := "validation error ")
      (b := "reset validation context for resource ") rfl rfl (by decide) (fieldName resource)
    rw [isOnViolation, hm, hp]
    rfl
  | merged count source target =>
    have hm : (merged count source target).message =
        "merged " ++ toString count ++ " errors from resource " ++ fieldName source ++ " into " ++
          fieldName target := rfl
    have hp := not_isPrefixOf_append (a := "validation error ") (b := "merged ") rfl rfl (by decide)
    simp only [isOnViolation, hm, String.append_assoc, hp, Bool.and_false]
    rfl
  | failed resource count => rfl
  | uncut t => rfl
  | rejected form t reason => rfl

theorem violationLines_eq (notes : List Note) :
    violationLines notes = (notes.filterMap record?).map fun e => (recorded e).message := by
  induction notes with
  | nil => rfl
  | cons n notes ih =>
    unfold violationLines at ih ⊢
    rw [List.filter_cons, isOnViolation_eq]
    cases n with
    | recorded e => simpa [record?] using ih
    | _ => exact ih

theorem violationLines_append (as bs : List Note) :
    violationLines (as ++ bs) = violationLines as ++ violationLines bs := by
  rw [violationLines, List.filter_append, List.map_append]
  rfl

theorem recorded_told {e : ErrorRecord} (h : e.IsSpelled) : e.ToldBy (recorded e).message := by
  cases h with
  | mk code message field rejected args =>
    have ht : ∀ s, valueText (.text s) = s := fun s => String.ofList_toList
    rw [message_recorded, ht, ht]
    exact .mk code message field rejected args

theorem lines_told {es : List ErrorRecord} (h : ∀ e ∈ es, e.IsSpelled) :
    List.Forall₂ ErrorRecord.ToldBy es (es.map fun e => (recorded e).message) := by
  rw [List.forall₂_map_right_iff, List.forall₂_same]
  intro e he
  exact recorded_told (h e he)

end Note

namespace Session

def log (s : Session) (steps : List Step) : List Note := (s.turns steps).flatMap Turn.notes

def added (s : Session) : Step → List ErrorRecord
  | .judge n q => ((s.step (.judge n q)).session.errors n).drop (s.errors n).length
  | _ => []

def addedBy (s : Session) : List Step → List ErrorRecord
  | [] => []
  | st :: steps => s.added st ++ (s.step st).session.addedBy steps

def TellsMerge (s : Session) (n : Nat) (c other : Context) (t : Turn) : Prop :=
  ∃ es, t.session.errors n = s.errors n ++ es ∧
    t.notes.map Note.message =
      ["merged " ++ toString es.length ++ " errors from resource " ++
        fieldName other.focus.resource ++ " into " ++ fieldName c.focus.resource]

/-- An end that fails with violations tells how many they are, also to those who do not look for
errors. Any other end tells nothing. -/
structure TellsEnd (c : Context) (t : Turn) : Prop where
  failed : ∀ es, t.fault = some (.violations es) →
    t.notes.map Note.isInformation = [true] ∧
    t.notes.map Note.message =
      ["validation of " ++ fieldName c.focus.resource ++ " failed with " ++
        toString es.length ++ " errors"]
  otherwise : (∀ es, t.fault ≠ some (.violations es)) → t.notes = []

/-- What the notes of a step tell of it. -/
structure NotesTell (s : Session) (st : Step) : Prop where
  violations : List.Forall₂ ErrorRecord.ToldBy (s.added st)
    (Note.violationLines (s.step st).notes)
  judged : ∀ n q, st = .judge n q → ∀ m,
    (s.step st).session.ledger m =
      s.ledger m ++ if s.ledgerOf? n = some m then s.added st else []
  passing : ∀ n q, st = .judge n q → (s.step st).session.errors n = s.errors n →
    Note.violationLines (s.step st).notes = []
  raising : (s.step st).fault ≠ none → Note.violationLines (s.step st).notes = []
  unjudged : (∀ n q, st ≠ .judge n q) → Note.violationLines (s.step st).notes = []
  merged : ∀ n k c other, s.context? n = some c → s.context? k = some other →
    st = .merge n k → (s.step st).fault = none → s.TellsMerge n c other (s.step st)
  refused : ∀ n k, st = .merge n k → (s.step st).fault ≠ none → (s.step st).notes = []
  ended : ∀ n c, s.context? n = some c → st = .finish n → TellsEnd c (s.step st)
  unended : (∀ n, st ≠ .finish n) → ∀ note ∈ (s.step st).notes, note.isInformation = false

variable {s : Session} {st : Step}

theorem changeFocus_notes (s : Session) (n : Nat) (c : Context) (ch : Focus.Change) :
    (s.changeFocus n c ch).notes = [] := by
  cases hf : c.focus.change ch with
  | ok f =>
    rw [changeFocus_ok hf]
    rfl
  | error e =>
    rw [changeFocus_error hf]
    rfl

theorem judge_notes (s : Session) (c : Context) (q : Inquiry) :
    (s.judge c q).notes =
      checkNotes (s.checkers c) c (c.question? q) ++ (s.verdict c q).records.map .recorded := by
  rw [judge_eq]

theorem merge_notes {c other : Context} (h : other.ledger ≠ c.ledger) :
    (s.merge c other).notes =
      [.merged (s.ledger other.ledger).length other.focus.resource c.focus.resource] := by
  simp [merge, h]

theorem finish_notes {n : Nat} {c : Context} (h : c.isClosed = false) :
    (s.finish n c).notes =
      if s.ledger c.ledger = [] then []
      else [.failed c.focus.resource (s.ledger c.ledger).length] := by
  unfold Context.isClosed at h
  simp only [finish, h, Bool.false_eq_true, if_false]
  split <;> simp_all [still]

theorem checkNotes_isInformation (checkers : Checkers) (c : Context)
    (question : Option (ScheduleForm × String)) :
    ∀ note ∈ checkNotes checkers c question, note.isInformation = false := by
  intro note h
  have hc := checkNotes_fromChecker checkers c question note h
  cases note with
  | failed resource count => cases hc
  | _ => rfl

theorem added_missing {n : Nat} (ht : st.target? = some n) (h : s.context? n = none) :
    s.added st = [] := by
  cases st with
  | judge m q =>
    obtain rfl := Option.some.inj ht
    rw [added, step_missing rfl h]
    exact List.drop_length
  | _ => rfl

theorem added_judge (hs : s.Grounded) (n : Nat) (q : Inquiry) :
    s.added (.judge n q) = s.reported n q := by
  cases h : s.context? n with
  | none =>
    rw [added_missing rfl h, reported, h]
    rfl
  | some c => rw [added, errors_judge hs h, List.drop_left]

theorem added_spelled (hs : s.Grounded) (st : Step) : ∀ e ∈ s.added st, e.IsSpelled := by
  cases st with
  | judge n q =>
    rw [added_judge hs]
    exact reported_spelled s n q
  | _ => exact fun e he => nomatch he

theorem errors_added (hs : s.Grounded) (n : Nat) (q : Inquiry) :
    (s.step (.judge n q)).session.errors n = s.errors n ++ s.added (.judge n q) := by
  cases h : s.context? n with
  | none =>
    rw [added_missing rfl h, step_missing rfl h, List.append_nil]
    rfl
  | some c => rw [added_judge hs, errors_judge hs h]

theorem added_of_fault (hs : s.Grounded) (hf : (s.step st).fault ≠ none) : s.added st = [] := by
  cases st with
  | judge n q =>
    cases h : s.context? n with
    | none => exact added_missing rfl h
    | some c =>
      rw [step_judge h, judge_fault] at hf
      rw [added_judge hs, reported, h]
      exact Verdict.records_of_fault hf
  | _ => rfl

theorem added_unjudged (h : ∀ n q, st ≠ .judge n q) : s.added st = [] := by
  cases st with
  | judge n q => exact absurd rfl (h n q)
  | _ => rfl

/-- All that a step can leave in notes. One that leaves none has added nothing. -/
inductive Leaves (s : Session) : Step → List Note → Prop where
  | none {st : Step} (h : s.added st = []) : Leaves s st []
  | judged {n : Nat} {c : Context} (q : Inquiry) (h : s.context? n = some c) :
      Leaves s (.judge n q)
        (checkNotes (s.checkers c) c (c.question? q) ++ (s.verdict c q).records.map .recorded)
  | restarted (n : Nat) (resource : Option String) : Leaves s (.restart n) [.restarted resource]
  | merged (n k count : Nat) (source target : Option String) :
      Leaves s (.merge n k) [.merged count source target]
  | failed (n : Nat) (resource : Option String) (count : Nat) :
      Leaves s (.finish n) [.failed resource count]

theorem leaves_merge (s : Session) (n k : Nat) (c other : Context) :
    Leaves s (.merge n k) (s.merge c other).notes := by
  by_cases hl : other.ledger = c.ledger
  · rw [merge_shared hl]
    exact .none rfl
  · rw [merge_notes hl]
    exact .merged ..

theorem leaves_finish (s : Session) (n : Nat) (c : Context) :
    Leaves s (.finish n) (s.finish n c).notes := by
  cases hc : c.isClosed with
  | true =>
    rw [finish_closed hc]
    exact .none rfl
  | false =>
    rw [finish_notes hc]
    split
    · exact .none rfl
    · exact .failed ..

theorem leaves_of_found {n : Nat} (ht : st.target? = some n)
    (found : ∀ c, s.context? n = some c → Leaves s st (s.step st).notes) :
    Leaves s st (s.step st).notes :=
  step_elim (P := fun t => Leaves s st t.notes) ht (fun h => .none (added_missing ht h)) found

theorem step_leaves (s : Session) (st : Step) : Leaves s st (s.step st).notes := by
  cases st with
  | start resource settings choice recurrence cron => exact .none rfl
  | change n ch =>
    refine leaves_of_found rfl fun c h => ?_
    rw [step_change h, changeFocus_notes]
    exact .none rfl
  | judge n q =>
    refine leaves_of_found rfl fun c h => ?_
    rw [step_judge h, judge_notes]
    exact .judged q h
  | restart n =>
    refine leaves_of_found rfl fun c h => ?_
    rw [step_restart h]
    exact .restarted ..
  | merge n k =>
    refine leaves_of_found rfl fun c h => ?_
    cases ho : s.context? k with
    | none =>
      rw [step_merge_missing ho]
      exact .none rfl
    | some other =>
      rw [step_merge h ho]
      exact leaves_merge s n k c other
  | finish n =>
    refine leaves_of_found rfl fun c h => ?_
    rw [step_finish h]
    exact leaves_finish s n c

theorem Leaves.records {notes : List Note} (lv : Leaves s st notes) (hs : s.Grounded) :
    notes.filterMap Note.record? = s.added st := by
  have hid : Note.record? ∘ Note.recorded = some := rfl
  cases lv with
  | none h => rw [h, List.filterMap_nil]
  | judged q h =>
    rw [added_judge hs, reported, h, List.filterMap_append, checkNotes_records, List.nil_append,
      List.filterMap_map, hid, List.filterMap_some]
    rfl
  | _ => rfl

theorem Leaves.isInformation {notes : List Note} (lv : Leaves s st notes)
    (h : ∀ n, st ≠ .finish n) : ∀ note ∈ notes, note.isInformation = false := by
  intro note hn
  cases lv with
  | none => cases hn
  | judged q hc =>
    rcases List.mem_append.mp hn with hn | hn
    · exact checkNotes_isInformation _ _ _ note hn
    · obtain ⟨e, -, rfl⟩ := List.mem_map.mp hn
      rfl
  | failed n => exact absurd rfl (h n)
  | _ =>
    rw [List.mem_singleton.mp hn]
    rfl

theorem step_violations (hs : s.Grounded) (st : Step) :
    List.Forall₂ ErrorRecord.ToldBy (s.added st) (Note.violationLines (s.step st).notes) := by
  rw [Note.violationLines_eq, (step_leaves s st).records hs]
  exact Note.lines_told (added_spelled hs st)

theorem no_violations (hs : s.Grounded) (h : s.added st = []) :
    Note.violationLines (s.step st).notes = [] := by
  have hv := step_violations hs st
  rw [h] at hv
  exact List.forall₂_nil_left_iff.mp hv

theorem merge_tells (hs : s.Grounded) {n k : Nat} {c other : Context} (h : s.context? n = some c)
    (ho : s.context? k = some other) (hf : (s.step (.merge n k)).fault = none) :
    s.TellsMerge n c other (s.step (.merge n k)) := by
  rw [step_merge h ho] at hf ⊢
  have hl : other.ledger ≠ c.ledger := by
    intro hl
    rw [merge_shared hl] at hf
    cases hf
  refine ⟨s.ledger other.ledger, ?_, ?_⟩
  · rw [merge_session hl, errors_of_context (s := s.append _ _) h,
      ledger_append_self s (hs.context? h), errors_of_context h]
  · rw [merge_notes hl]
    rfl

theorem merge_refused (s : Session) (n k : Nat) :
    (s.step (.merge n k)).fault ≠ none → (s.step (.merge n k)).notes = [] := by
  refine step_elim (P := fun t => t.fault ≠ none → t.notes = []) rfl (fun _ _ => rfl) ?_
  intro c h
  cases ho : s.context? k with
  | none =>
    rw [step_merge_missing ho]
    exact fun _ => rfl
  | some other =>
    rw [step_merge h ho]
    by_cases hl : other.ledger = c.ledger
    · rw [merge_shared hl]
      exact fun _ => rfl
    · rw [merge_fault hl]
      exact fun hf => absurd rfl hf

theorem finish_tells_count {n : Nat} {c : Context} (h : s.context? n = some c) :
    TellsEnd c (s.step (.finish n)) := by
  rw [step_finish h]
  cases hc : c.isClosed with
  | true =>
    rw [finish_closed hc]
    exact ⟨fun es he => (nomatch he), fun _ => rfl⟩
  | false =>
    have hf := finish_fault (s := s) (n := n) hc
    have hn := finish_notes (s := s) (n := n) hc
    by_cases hl : s.ledger c.ledger = []
    · rw [if_pos hl] at hf hn
      exact ⟨fun es he => (nomatch hf.symm.trans he), fun _ => hn⟩
    · rw [if_neg hl] at hf hn
      constructor
      case failed =>
        intro es he
        obtain rfl := Fault.violations.inj (Option.some.inj (hf.symm.trans he))
        rw [hn]
        exact ⟨rfl, rfl⟩
      case otherwise => exact fun h => absurd hf (h _)

theorem step_notesTell (hs : s.Grounded) (st : Step) : NotesTell s st := by
  constructor
  case violations => exact step_violations hs st
  case judged =>
    rintro n q rfl m
    rw [(step_moves s _).ledger hs, added_judge hs]
    rfl
  case passing =>
    rintro n q rfl h
    rw [errors_added hs] at h
    exact no_violations hs (List.append_right_eq_self.mp h)
  case raising => exact fun hf => no_violations hs (added_of_fault hs hf)
  case unjudged => exact fun h => no_violations hs (added_unjudged h)
  case merged =>
    rintro n k c other h ho rfl hf
    exact merge_tells hs h ho hf
  case refused =>
    rintro n k rfl hf
    exact merge_refused s n k hf
  case ended =>
    rintro n c h rfl
    exact finish_tells_count h
  case unended => exact (step_leaves s st).isInformation

theorem log_cons (s : Session) (st : Step) (steps : List Step) :
    s.log (st :: steps) = (s.step st).notes ++ (s.step st).session.log steps := by
  rw [log, turns, List.flatMap_cons, log]

theorem log_violations (hs : s.Grounded) (steps : List Step) :
    List.Forall₂ ErrorRecord.ToldBy (s.addedBy steps) (Note.violationLines (s.log steps)) := by
  induction steps generalizing s with
  | nil => exact .nil
  | cons st steps ih =>
    rw [log_cons, Note.violationLines_append]
    exact List.rel_append (step_violations hs st) (ih ((step_moves s st).grounded hs))

/-- In every session that is reached, whichever ledgers the caller had at first, the lines on
violations so far are those of the records that judgements have added, in the order in which they
were added, and the notes of the next step tell what it does. -/
theorem log_tells (libs : Libraries) (ledgers : List (List ErrorRecord)) (before : List Step)
    (st : Step) :
    List.Forall₂ ErrorRecord.ToldBy (addedBy (initial libs ledgers) before)
        (Note.violationLines (log (initial libs ledgers) before)) ∧
      NotesTell (run (initial libs ledgers) before) st := by
  have hs := grounded_initial libs ledgers
  exact ⟨log_violations hs before, step_notesTell (run_grounded hs before) st⟩

example :
    let steps : List Step := [.start (some "loan") {} .own none none,
      .start none {} .own none none, .change 0 (.field (some "term")),
      .judge 0 (.rule (.required .present)), .merge 1 0, .finish 1]
    (log (initial .lenient []) steps).map Note.message =
      ["validation error validation.msg.loan.term.cannot.be.blank on term",
        "merged 1 errors from resource loan into None",
        "validation of None failed with 1 errors"] := by
  decide

end Session
end Scrutiny
