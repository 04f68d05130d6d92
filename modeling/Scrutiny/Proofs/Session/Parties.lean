import Mathlib.Data.List.Basic
import Scrutiny.Proofs.Session.Atomic
import Scrutiny.Proofs.Session.Sharing

/-!
# Two parties in one session

Two parties work with one session, each on contexts of its own, all of which write to one ledger,
and on those that it restarts. What a party's act does to contexts and ledgers, and what it is
answered, follows from these contexts and, for ends and looks, from their ledger.
-/

set_option autoImplicit false

namespace Scrutiny

inductive Side where
  | left
  | right
  deriving DecidableEq

/-- What is done with a context. A look at it is no step. A party merges contexts of its own only,
of which it gives the other's number among them. -/
inductive Act where
  | change (ch : Focus.Change)
  | judge (q : Inquiry)
  | restart
  | merge (other : Nat)
  | finish
  | look

/-- An act on one of a party's contexts, which it counts in the order in which it has got them. -/
structure Deed where
  member : Nat
  act : Act

structure Sight where
  focus : Focus
  finished : Bool
  errors : List ErrorRecord

structure Answer where
  notes : List Note
  fault : Option Fault
  sight : Option Sight

/-- Two parties with the numbers of their contexts. -/
structure Joint where
  session : Session
  members : Side → List Nat

def Act.step? (members : List Nat) (n : Nat) : Act → Option Step
  | .change ch => some (.change n ch)
  | .judge q => some (.judge n q)
  | .restart => some (.restart n)
  | .merge k => (members[k]?).map (.merge n)
  | .finish => some (.finish n)
  | .look => none

/-- Acts whose answers do not depend on what is in the ledger. -/
def Act.isBlind : Act → Bool
  | .finish => false
  | .look => false
  | _ => true

def Deed.step? (members : List Nat) (d : Deed) : Option Step :=
  (members[d.member]?).bind fun n => d.act.step? members n

def Session.takeAny (s : Session) : Option Step → Turn
  | some st => s.step st
  | none => s.still

def Session.sight? (s : Session) (n : Nat) : Option Sight :=
  (s.context? n).map fun c => ⟨c.focus, c.finished, s.ledger c.ledger⟩

def Note.record? : Note → Option ErrorRecord
  | .recorded e => some e
  | _ => none

def Answer.records (a : Answer) : List ErrorRecord := a.notes.filterMap Note.record?

def ofSide {α : Type} (side : Side) (xs : List (Side × α)) : List (Side × α) :=
  xs.filter fun x => x.1 = side

namespace Joint

def sight? (j : Joint) (side : Side) (k : Nat) : Option Sight :=
  ((j.members side)[k]?).bind j.session.sight?

def turn (j : Joint) (side : Side) (d : Deed) : Turn :=
  j.session.takeAny (d.step? (j.members side))

def answer (j : Joint) (side : Side) (d : Deed) : Answer where
  notes := (j.turn side d).notes
  fault := (j.turn side d).fault
  sight :=
    match d.act with
    | .look => j.sight? side d.member
    | _ => none

def act (j : Joint) (side : Side) (d : Deed) : Joint :=
  let s := (j.turn side d).session
  let old := j.session.contexts.length
  { session := s
    members := fun other =>
      if other = side then j.members other ++ List.range' old (s.contexts.length - old)
      else j.members other }

def run (j : Joint) (deeds : List (Side × Deed)) : Joint :=
  deeds.foldl (fun j d => j.act d.1 d.2) j

def transcript (j : Joint) : List (Side × Deed) → List (Side × Deed × Answer)
  | [] => []
  | (side, d) :: deeds => (side, d, j.answer side d) :: (j.act side d).transcript deeds

def blind (entries : List (Side × Deed × Answer)) : List (Side × Deed × Answer) :=
  entries.filter fun e => e.2.1.act.isBlind

/-- What was recorded, and by whom. -/
def recorded (j : Joint) (deeds : List (Side × Deed)) : List (Side × ErrorRecord) :=
  (j.transcript deeds).flatMap fun e => e.2.2.records.map fun r => (e.1, r)

end Joint

namespace Act

def after (c : Context) : Act → Context
  | .change ch =>
    match c.focus.change ch with
    | .ok f => { c with focus := f }
    | .error _ => c
  | .finish => c.marked
  | _ => c

def fresh (c : Context) : Act → List Context
  | .restart => [{ c with focus := { resource := c.focus.resource }, finished := false }]
  | _ => []

end Act

namespace Session

variable {s : Session} {n : Nat} {c : Context}

theorem takeAny_contexts (h : s.context? n = some c) {members : List Nat}
    (hm : ∀ m ∈ members, s.ledgerOf? m = some c.ledger) (a : Act) :
    (s.takeAny (a.step? members n)).session.contexts =
      s.contexts.modify n a.after ++ a.fresh c := by
  have idle : s.contexts.modify n (fun d => d) = s.contexts := List.modify_id _ _
  cases a with
  | change ch =>
    have hfresh : Act.fresh c (.change ch) = [] := rfl
    have hset : s.contexts.modify n (Act.change ch).after =
        s.contexts.set n ((Act.change ch).after c) := by
      have hn : s.contexts[n]? = some c := h
      rw [List.modify_eq_set_getElem?, hn]
      rfl
    simp only [Act.step?, takeAny, step_change h, hfresh, List.append_nil, hset]
    cases hf : c.focus.change ch with
    | ok f => simp [changeFocus_ok hf, still, setContext, Act.after, hf]
    | error e =>
      obtain ⟨hn, hx⟩ := List.getElem?_eq_some_iff.mp h
      have hc : s.contexts.set n c = s.contexts := by
        rw [← hx]
        exact List.set_getElem_self hn
      simp [changeFocus_error hf, refusing, Act.after, hf, hc]
  | judge q =>
    simp only [Act.step?, takeAny, step_judge h, judge_session]
    simp [Act.fresh, Act.after, idle]
  | restart =>
    simp only [Act.step?, takeAny, step_restart h]
    simp [restart, Act.fresh, Act.after, idle]
  | merge k =>
    cases hk : members[k]? with
    | none => simp [Act.step?, hk, takeAny, still, Act.fresh, Act.after, idle]
    | some m =>
      obtain ⟨d, hd, hl⟩ := Option.map_eq_some_iff.mp (hm m (List.mem_of_getElem? hk))
      simp only [Act.step?, hk, Option.map_some, takeAny, step_merge h hd, merge_shared hl]
      simp [refusing, Act.fresh, Act.after, idle]
  | finish =>
    simp only [Act.step?, takeAny, step_finish_session]
    simp only [marked, Act.fresh, List.append_nil]
    rfl
  | look => simp [Act.step?, takeAny, still, Act.fresh, Act.after, idle]

theorem checkNotes_fromChecker (checkers : Checkers) (c : Context)
    (question : Option (ScheduleForm × String)) :
    ∀ note ∈ checkNotes checkers c question, note.isFromChecker = true := by
  have of_check : ∀ form t (check : Check), ∀ note ∈ Note.ofCheck form t check,
      note.isFromChecker = true := by
    intro form t check note h
    unfold Note.ofCheck at h
    split at h
    · cases h
    · rw [List.mem_singleton.mp h]
      rfl
    · rw [List.mem_singleton.mp h]
      rfl
  intro note h
  unfold checkNotes at h
  split at h
  · cases h
  · split at h
    · exact of_check _ _ _ note h
    · cases h

theorem checkNotes_records (checkers : Checkers) (c : Context)
    (question : Option (ScheduleForm × String)) :
    (checkNotes checkers c question).filterMap Note.record? = [] := by
  rw [List.filterMap_eq_nil_iff]
  intro note h
  have hc := checkNotes_fromChecker checkers c question note h
  cases note with
  | recorded e => cases hc
  | _ => rfl

theorem finish_records (s : Session) (n : Nat) (c : Context) :
    (s.finish n c).notes.filterMap Note.record? = [] := by
  unfold finish
  split
  · rfl
  · cases s.ledger c.ledger with
    | nil => rfl
    | cons e es => rfl

theorem takeAny_ledger (hs : s.Grounded) (h : s.context? n = some c) {members : List Nat}
    (hm : ∀ m ∈ members, s.ledgerOf? m = some c.ledger) (a : Act) (l : Nat) :
    (s.takeAny (a.step? members n)).session.ledger l =
      s.ledger l ++
        if c.ledger = l then (s.takeAny (a.step? members n)).notes.filterMap Note.record?
        else [] := by
  cases a with
  | change ch =>
    have hq := (step_moves s (.change n ch)).ledger hs l
    simp only [Act.step?, takeAny]
    rw [hq, written_quiet s rfl, step_change h]
    cases hf : c.focus.change ch with
    | ok f => simp [changeFocus_ok hf, still]
    | error e => simp [changeFocus_error hf, refusing]
  | judge q =>
    have hid : Note.record? ∘ Note.recorded = some := rfl
    simp only [Act.step?, takeAny, step_judge h, judge_eq]
    rw [ledger_append _ (by simpa using hs.context? h), asking_ledger, List.filterMap_append,
      checkNotes_records, List.nil_append, List.filterMap_map, hid, List.filterMap_some]
  | restart =>
    simp only [Act.step?, takeAny, step_restart h]
    simp [restart, Note.record?, ledger]
  | merge k =>
    cases hk : members[k]? with
    | none => simp [Act.step?, hk, takeAny, still]
    | some m =>
      obtain ⟨d, hd, hl⟩ := Option.map_eq_some_iff.mp (hm m (List.mem_of_getElem? hk))
      simp only [Act.step?, hk, Option.map_some, takeAny, step_merge h hd, merge_shared hl]
      simp [refusing]
  | finish =>
    have hq := (step_moves s (.finish n)).ledger hs l
    simp only [Act.step?, takeAny]
    rw [hq, written_quiet s rfl, step_finish h, finish_records, ite_self]
  | look => simp [Act.step?, takeAny, still]

theorem changeFocus_answer (s s' : Session) (n n' : Nat) (c : Context) (ch : Focus.Change) :
    (s.changeFocus n c ch).notes = (s'.changeFocus n' c ch).notes ∧
      (s.changeFocus n c ch).fault = (s'.changeFocus n' c ch).fault := by
  cases hf : c.focus.change ch with
  | ok f =>
    rw [changeFocus_ok hf, changeFocus_ok hf]
    exact ⟨rfl, rfl⟩
  | error e =>
    rw [changeFocus_error hf, changeFocus_error hf]
    exact ⟨rfl, rfl⟩

theorem judge_answer {s s' : Session} (hk : s.checkers c = s'.checkers c) (q : Inquiry) :
    (s.judge c q).notes = (s'.judge c q).notes ∧ (s.judge c q).fault = (s'.judge c q).fault := by
  have hv : s.verdict c q = s'.verdict c q := by rw [verdict, hk, verdict]
  rw [judge_eq, judge_eq, hv, hk]
  exact ⟨rfl, rfl⟩

theorem finish_answer {s s' : Session} (hl : s.ledger c.ledger = s'.ledger c.ledger) (n n' : Nat) :
    (s.finish n c).notes = (s'.finish n' c).notes ∧
      (s.finish n c).fault = (s'.finish n' c).fault := by
  simp only [finish, hl]
  split
  · exact ⟨rfl, rfl⟩
  · cases s'.ledger c.ledger with
    | nil => exact ⟨rfl, rfl⟩
    | cons e es => exact ⟨rfl, rfl⟩

theorem takeAny_answer {s s' : Session} {n n' : Nat} {members members' : List Nat}
    (h : s.context? n = some c) (h' : s'.context? n' = some c)
    (hk : s.checkers c = s'.checkers c)
    (hv : members.map s.context? = members'.map s'.context?)
    (hm : ∀ m ∈ members, s.ledgerOf? m = some c.ledger) (a : Act)
    (ha : a.isBlind = true ∨ s.ledger c.ledger = s'.ledger c.ledger) :
    (s.takeAny (a.step? members n)).notes = (s'.takeAny (a.step? members' n')).notes ∧
      (s.takeAny (a.step? members n)).fault = (s'.takeAny (a.step? members' n')).fault := by
  cases a with
  | change ch =>
    simp only [Act.step?, takeAny, step_change h, step_change h']
    exact changeFocus_answer s s' n n' c ch
  | judge q =>
    simp only [Act.step?, takeAny, step_judge h, step_judge h']
    exact judge_answer hk q
  | restart =>
    simp only [Act.step?, takeAny, step_restart h, step_restart h']
    exact ⟨rfl, rfl⟩
  | merge k =>
    have hvk := congrArg (fun xs : List (Option Context) => xs[k]?) hv
    simp only [List.getElem?_map] at hvk
    cases hmk : members[k]? with
    | none =>
      rw [hmk, Option.map_none] at hvk
      have hmk' := Option.map_eq_none_iff.mp hvk.symm
      simp only [Act.step?, hmk, hmk', Option.map_none, takeAny]
      exact ⟨rfl, rfl⟩
    | some m =>
      rw [hmk, Option.map_some] at hvk
      obtain ⟨m', hmk', hd'⟩ := Option.map_eq_some_iff.mp hvk.symm
      obtain ⟨d, hd, hl⟩ := Option.map_eq_some_iff.mp (hm m (List.mem_of_getElem? hmk))
      rw [hd] at hd'
      simp only [Act.step?, hmk, hmk', Option.map_some, takeAny, step_merge h hd,
        step_merge h' hd', merge_shared hl]
      exact ⟨rfl, rfl⟩
  | finish =>
    have hl := ha.resolve_left Bool.false_ne_true
    simp only [Act.step?, takeAny, step_finish h, step_finish h']
    exact finish_answer hl n n'
  | look => exact ⟨rfl, rfl⟩

theorem Moves.checkers {s' : Session} {st : Step} (mv : Moves s st s')
    (ht : st.target? ≠ none) : s'.checkers = s.checkers := by
  cases mv with
  | started => exact absurd rfl ht
  | judged q h =>
    funext d
    rw [append_checkers, asking_checkers]
  | _ => rfl

theorem takeAny_checkers (s : Session) (members : List Nat) (n : Nat) (a : Act) :
    (s.takeAny (a.step? members n)).session.checkers = s.checkers := by
  cases hst : a.step? members n with
  | none => rfl
  | some st =>
    apply (step_moves s st).checkers
    cases a with
    | merge k =>
      obtain ⟨m, -, rfl⟩ := Option.map_eq_some_iff.mp hst
      exact Option.some_ne_none n
    | look => cases hst
    | _ =>
      cases hst
      exact Option.some_ne_none n

theorem takeAny_grounded (hs : s.Grounded) (o : Option Step) : (s.takeAny o).session.Grounded := by
  cases o with
  | none => exact hs
  | some st => exact (step_moves s st).grounded hs

end Session
end Scrutiny
