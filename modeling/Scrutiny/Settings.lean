import Scrutiny.Rule
import Scrutiny.Text.Pieces
import Scrutiny.Value.Equal

/-!
Settings of a session: how token lists are written and which tokens are booleans, whether a
session may be finished only once, and the years that schedules may name. A setting that is not
given is looked up in the environment, under its name behind a common beginning, and has a
default if it is not there either.
-/

set_option autoImplicit false

namespace Scrutiny

open Text

structure Settings where
  separator : String := "_"
  booleans : List String := ["TRUE", "FALSE"]
  /-- Whether a session is finished only once; any value may say so. -/
  finishOnce : Value := .bool true
  firstYear : Int := 1970
  lastYear : Int := 2199

abbrev Environment := String → Option String

namespace Settings

def standard : Settings := {}

structure Given where
  separator : Option String := none
  booleans : Option Value := none
  finishOnce : Option Value := none
  firstYear : Option Int := none
  lastYear : Option Int := none
  /-- What the names of variables begin with. -/
  start : String := "REQUEST_VALIDATOR"

def Given.variable (g : Given) (name : String) : String := g.start ++ "_" ++ name

/-- A variable's trimmed value; a blank one is none. -/
def trimmed? (env : Environment) (name : String) : Option (List Char) :=
  ((env name).map fun s => trim s.toList).filter fun t => !t.isEmpty

def refuse {α : Type} (r : Refusal) : Except Fault α := .error (.refused r)

def resolveSeparator (g : Given) (env : Environment) : Except Fault String :=
  match g.separator with
  | some s => if s.isEmpty then refuse (.emptySeparator (g.variable "INPUT_SEPARATOR")) else .ok s
  | none => .ok (((env (g.variable "INPUT_SEPARATOR")).filter fun s => !s.isEmpty).getD standard.separator)

def listed (t : List Char) : List (List Char) :=
  ((cutAt ',' t).map trim).filter fun p => !p.isEmpty

def canonical (t : List Char) : List Char := upper (trim t)

/-- Canonical tokens in order, without the empty ones and without repetitions. -/
def tokens (ts : List (List Char)) : List (List Char) :=
  ((ts.map canonical).filter fun t => !t.isEmpty).foldl
    (fun seen t => if seen.contains t then seen else seen ++ [t]) []

def memberTexts (v : Value) : Except Fault (List (List Char)) :=
  match v.members? with
  | some items => items.mapM Value.plain
  | none => .error .wrongKind

def environmentTokens (g : Given) (env : Environment) : List (List Char) :=
  match listed ((trimmed? env (g.variable "BOOLEAN_INPUTS")).getD []) with
  | [] => standard.booleans.map String.toList
  | ts => ts

def resolveBooleans (g : Given) (env : Environment) : Except Fault (List String) := do
  let ts ← match g.booleans with
    | some v => memberTexts v
    | none => pure (environmentTokens g env)
  return (tokens ts).map String.ofList

def boolean? (t : List Char) : Option Bool :=
  let word := String.ofList (lower t)
  if ["1", "true", "yes", "on"].contains word then some true
  else if ["0", "false", "no", "off"].contains word then some false
  else none

def resolveFinishOnce (g : Given) (env : Environment) : Except Fault Value :=
  match g.finishOnce, trimmed? env (g.variable "STRICT_FINISH") with
  | some v, _ => .ok v
  | none, none => .ok standard.finishOnce
  | none, some t =>
    match boolean? t with
    | some b => .ok (.bool b)
    | none => refuse (.notBoolean (g.variable "STRICT_FINISH") (String.ofList (quoted t)))

def resolveYear (g : Given) (env : Environment) (given : Option Int) (name : String)
    (default : Int) : Except Fault Int :=
  match given, trimmed? env (g.variable name) with
  | some n, _ => .ok n
  | none, none => .ok default
  | none, some t =>
    match readInteger? t with
    | some n => .ok n
    | none => refuse (.notInteger (g.variable name) (String.ofList (quoted t)))

/-- Settles every setting; the first that cannot be settled is the one refused. -/
def resolve (g : Given) (env : Environment) : Except Fault Settings := do
  let separator ← resolveSeparator g env
  let booleans ← resolveBooleans g env
  let finishOnce ← resolveFinishOnce g env
  let first ← resolveYear g env g.firstYear "CRON_MIN_YEAR" standard.firstYear
  let last ← resolveYear g env g.lastYear "CRON_MAX_YEAR" standard.lastYear
  return ⟨separator, booleans, finishOnce, first, last⟩

def isDefault (s : Settings) : Except Fault Bool := do
  if s.separator = standard.separator ∧ s.booleans = standard.booleans ∧
      s.firstYear = standard.firstYear ∧ s.lastYear = standard.lastYear then
    s.finishOnce.equal standard.finishOnce
  else return false

def tokenRule (s : Settings) (tokens : String) : Rule :=
  .wording (.token tokens (.text s.separator))

def booleanRule (s : Settings) : Rule :=
  .wording (.listedToken s.separator (.list (s.booleans.map .text)))

end Settings
end Scrutiny
