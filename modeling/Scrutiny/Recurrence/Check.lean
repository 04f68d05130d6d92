import Scrutiny.Recurrence.Content
import Scrutiny.Recurrence.Parts
import Scrutiny.Rule.Schedule

/-!
Checking recurrence rules: a rule has to fall into parts, its parts have to be within their
limits, and then it has to be readable as a whole, for which any reading will do here.
-/

set_option autoImplicit false

namespace Scrutiny.Recurrence

/-- Reads a rule, or finds the reason why it cannot be read. -/
abbrev Reading := List Char → Except Flaw Unit

def parseError : Check := ⟨.parseError, some "expected NAME=VALUE parts separated by ';'"⟩

/-- The answer to a flaw; a date that is too large is a fault. -/
def checkFlaw (f : Flaw) : Except Fault Check :=
  match f.reason? with
  | some r => .ok (.invalid r)
  | none => .error .beyondMachine

def checkWith (read : Reading) (t : List Char) : Except Fault Check := do
  match parts? t with
  | none => return parseError
  | some ps =>
    match ← problem? ps with
    | some p => return .invalid p.reason
    | none =>
      match read (body t) with
      | .ok () => return .valid
      | .error f => checkFlaw f

def check (t : List Char) : Except Fault Check := checkWith read t

end Scrutiny.Recurrence
