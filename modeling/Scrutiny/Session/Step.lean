import Scrutiny.Session.Basic

/-!
Steps of a session. A step gives a new session, notes, and a fault if it has failed; a step that
has failed leaves ledgers and focuses as they were. A context that does not exist makes a step
do nothing.
-/

set_option autoImplicit false

namespace Scrutiny

/-- Where a new context writes: to a ledger of its own or to one that is there. A ledger that
does not exist is none that a caller can name, and a context's own takes its place. -/
inductive LedgerChoice where
  | own
  | existing (n : Nat)

/-- What a caller has judged. The last two are rules whose arguments the settings complete. -/
inductive Inquiry where
  | rule (r : Rule)
  | token (tokens : String)
  | boolean

def Inquiry.completed (settings : Settings) : Inquiry → Rule
  | .rule r => r
  | .token tokens => settings.tokenRule tokens
  | .boolean => settings.booleanRule

inductive Step where
  | start (resource : Option String) (settings : Settings) (ledger : LedgerChoice)
      (recurrence cron : Option (String → Check))
  | change (context : Nat) (c : Focus.Change)
  | judge (context : Nat) (q : Inquiry)
  | restart (context : Nat)
  | merge (context other : Nat)
  | finish (context : Nat)

/-- What a step leads to. -/
structure Turn where
  session : Session
  notes : List Note := []
  fault : Option Fault := none

namespace Session

def still (s : Session) : Turn := { session := s }

def refusing (s : Session) (f : Fault) : Turn := { session := s, fault := some f }

def withSubstitute (s : Session) : Option (String → Check) → Session × Examiner
  | none => (s, .real)
  | some answer =>
    ({ s with substitutes := s.substitutes ++ [⟨answer, []⟩] },
      .substitute s.substitutes.length)

def withOwnLedger (s : Session) : Session × Nat :=
  ({ s with ledgers := s.ledgers ++ [[]] }, s.ledgers.length)

def withLedger (s : Session) : LedgerChoice → Session × Nat
  | .own => s.withOwnLedger
  | .existing n => if n < s.ledgers.length then (s, n) else s.withOwnLedger

def startContext (s : Session) (resource : Option String) (settings : Settings)
    (ledger : LedgerChoice) (recurrence cron : Option (String → Check)) : Session :=
  let (s, n) := s.withLedger ledger
  let (s, r) := s.withSubstitute recurrence
  let (s, c) := s.withSubstitute cron
  let examiner : ScheduleForm → Examiner
    | .recurrence => r
    | .cron => c
  { s with contexts := s.contexts ++ [⟨{ resource }, settings, n, examiner, false⟩] }

def changeFocus (s : Session) (n : Nat) (c : Context) (ch : Focus.Change) : Turn :=
  match c.focus.change ch with
  | .ok f => (s.setContext n { c with focus := f }).still
  | .error e => s.refusing e

/-- The notes of the real checkers on what a rule has asked them. -/
def checkNotes (checkers : Checkers) (c : Context)
    (question : Option (ScheduleForm × String)) : List Note :=
  match question with
  | none => []
  | some (form, t) =>
    match c.examiner form, checkers form t with
    | .real, .ok check => Note.ofCheck form t check
    | _, _ => []

def asking (s : Session) (c : Context) : Option (ScheduleForm × String) → Session
  | none => s
  | some (form, t) => s.ask (c.examiner form) t

def judge (s : Session) (c : Context) (q : Inquiry) : Turn :=
  let r := q.completed c.settings
  let question := (r.question c.focus).toOption.join
  let s' := s.asking c question
  let notes := checkNotes (s.checkers c) c question
  match r.judge (s.checkers c) c.focus with
  | .error f => { session := s', notes := notes, fault := some f }
  | .ok none => { session := s', notes := notes }
  | .ok (some e) => { session := s'.append c.ledger [e], notes := notes ++ [.recorded e] }

/-- A context of the same kind with nothing in focus but the resource. -/
def restart (s : Session) (c : Context) : Turn :=
  let fresh : Context := { c with focus := { resource := c.focus.resource }, finished := false }
  { session := { s with contexts := s.contexts ++ [fresh] }
    notes := [.restarted c.focus.resource] }

def merge (s : Session) (c other : Context) : Turn :=
  if other.ledger = c.ledger then s.refusing (.refused (.sharedMerge c.focus.resource))
  else
    let es := s.ledger other.ledger
    { session := s.append c.ledger es
      notes := [.merged es.length other.focus.resource c.focus.resource] }

def finish (s : Session) (n : Nat) (c : Context) : Turn :=
  if c.finished && c.settings.finishOnce.isTrue then
    s.refusing (.refused (.finishedTwice c.focus.resource))
  else
    let s' := s.setContext n { c with finished := true }
    match s.ledger c.ledger with
    | [] => s'.still
    | es =>
      { session := s', notes := [.failed c.focus.resource es.length]
        fault := some (.violations es) }

def withContext (s : Session) (n : Nat) (act : Context → Turn) : Turn :=
  match s.context? n with
  | some c => act c
  | none => s.still

def step (s : Session) : Step → Turn
  | .start resource settings ledger recurrence cron =>
    (s.startContext resource settings ledger recurrence cron).still
  | .change n ch => s.withContext n fun c => s.changeFocus n c ch
  | .judge n q => s.withContext n fun c => s.judge c q
  | .restart n => s.withContext n fun c => s.restart c
  | .merge n m => s.withContext n fun c => s.withContext m fun other => s.merge c other
  | .finish n => s.withContext n fun c => s.finish n c

/-- Takes steps one after the other, whether they fail or not. -/
def run (s : Session) (steps : List Step) : Session :=
  steps.foldl (fun s st => (s.step st).session) s

def turns (s : Session) : List Step → List Turn
  | [] => []
  | st :: sts => s.step st :: turns (s.step st).session sts

@[simp] theorem run_nil (s : Session) : s.run [] = s := rfl

@[simp] theorem run_cons (s : Session) (st : Step) (sts : List Step) :
    s.run (st :: sts) = (s.step st).session.run sts := rfl

theorem run_append (s : Session) (as bs : List Step) :
    s.run (as ++ bs) = (s.run as).run bs := by
  simp [run]

end Session
end Scrutiny
