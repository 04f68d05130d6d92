import Scrutiny.Checkers
import Scrutiny.Focus.Change
import Scrutiny.Session.Note

/-!
Sessions. A session holds ledgers, which are lists of records, and contexts, each of which has a
focus, settings, a ledger that it writes to and checkers of schedules. Contexts may share a
ledger: when they are made for one that is there, or when one is a fresh start of another. A
checker is the real one, which works with the libraries of the session, or a substitute that the
caller has brought, of which the session knows how it answers and what it was asked. Ledgers, contexts
and substitutes are counted from zero and never go away, and the libraries stay what they are.
-/

set_option autoImplicit false

namespace Scrutiny

/-- A checker that the caller has brought, with the texts it was asked about. -/
structure Substitute where
  answer : String → Check
  asked : List String

/-- The real checker, or the number of a substitute. -/
inductive Examiner where
  | real
  | substitute (n : Nat)
  deriving DecidableEq

structure Context where
  focus : Focus
  settings : Settings
  ledger : Nat
  examiner : ScheduleForm → Examiner
  finished : Bool

structure Session where
  libraries : Libraries
  ledgers : List (List ErrorRecord) := []
  contexts : List Context := []
  substitutes : List Substitute := []

namespace Session

/-- A session without contexts, with the ledgers that callers bring to it. -/
def initial (l : Libraries) (ledgers : List (List ErrorRecord)) : Session :=
  { libraries := l, ledgers := ledgers }

def ledger (s : Session) (n : Nat) : List ErrorRecord := s.ledgers.getD n []

def context? (s : Session) (n : Nat) : Option Context := s.contexts[n]?

def errors (s : Session) (n : Nat) : List ErrorRecord :=
  ((s.context? n).map fun c => s.ledger c.ledger).getD []

def hasErrors (s : Session) (n : Nat) : Bool := !(s.errors n).isEmpty

def asked (s : Session) (n : Nat) : List String :=
  ((s.substitutes[n]?).map Substitute.asked).getD []

def setContext (s : Session) (n : Nat) (c : Context) : Session :=
  { s with contexts := s.contexts.set n c }

def append (s : Session) (n : Nat) (es : List ErrorRecord) : Session :=
  { s with ledgers := s.ledgers.modify n (· ++ es) }

@[simp] theorem setContext_ledgers (s : Session) (n : Nat) (c : Context) :
    (s.setContext n c).ledgers = s.ledgers := rfl

@[simp] theorem append_contexts (s : Session) (n : Nat) (es : List ErrorRecord) :
    (s.append n es).contexts = s.contexts := rfl

theorem ledger_append_of_ne (s : Session) {n m : Nat} (h : n ≠ m) (es : List ErrorRecord) :
    (s.append n es).ledger m = s.ledger m := by
  simp [append, ledger, List.getD_eq_getElem?_getD, h]

theorem ledger_append_self (s : Session) {n : Nat} (h : n < s.ledgers.length)
    (es : List ErrorRecord) : (s.append n es).ledger n = s.ledger n ++ es := by
  simp [append, ledger, List.getD_eq_getElem?_getD, h]

def ask (s : Session) (e : Examiner) (t : String) : Session :=
  match e with
  | .real => s
  | .substitute n =>
    { s with substitutes := s.substitutes.modify n fun a => { a with asked := a.asked ++ [t] } }

def examine (s : Session) (settings : Settings) (e : Examiner) : Checkers := fun form t =>
  match e with
  | .real => s.libraries.checkers settings form t
  | .substitute n =>
    match s.substitutes[n]? with
    | some a => .ok (a.answer t)
    | none => .ok .valid

def checkers (s : Session) (c : Context) : Checkers := fun form t =>
  s.examine c.settings (c.examiner form) form t

end Session
end Scrutiny
