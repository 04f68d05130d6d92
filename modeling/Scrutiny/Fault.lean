import Scrutiny.Record
import Scrutiny.Report.Problem

/-!
What can go wrong. A refusal is the library's own answer to a misuse: a value that a rule cannot
read, an argument or a setting that makes no sense, a session that is closed twice. Violations
are what a session that found errors ends with. Problems are what a report that cannot be read
back is rejected for. The remaining faults are those of the operations that all this is made of.
-/

set_option autoImplicit false

namespace Scrutiny

inductive Target where
  | int
  | long
  | decimal
  | date
  deriving DecidableEq

def Target.name : Target → String
  | .int => "int"
  | .long => "long"
  | .decimal => "decimal"
  | .date => "date"

inductive Refusal where
  | unreadable (field : Option String) (value : Value) (shown : String) (target : Target)
  | notArray (field : Option String) (kind : String)
  | notCollection (field : Option String) (kind : String)
  | zeroMultiple (field : Option String)
  | blankPart (field : Option String)
  | badIndex (field : Option String) (shown : String)
  | sharedMerge (resource : Option String)
  | finishedTwice (resource : Option String)
  | emptySeparator (name : String)
  | notBoolean (name shown : String)
  | notInteger (name shown : String)

inductive Fault where
  | refused (r : Refusal)
  | violations (errors : List ErrorRecord)
  | problems (ps : List Report.Problem)
  | wrongKind
  | wrongValue
  | undefinedNumber
  | numberTooLarge
  | malformedPattern
  /-- A number that no machine integer holds, where it has to be one. -/
  | beyondMachine
  /-- Bytes that are no text cannot be written in a report. -/
  | unwritable

theorem ok_of_bind {α β : Type} {x : Except Fault α} {k : α → Except Fault β} {b : β}
    (h : x >>= k = .ok b) : ∃ a, x = .ok a ∧ k a = .ok b := by
  cases x with
  | error f => cases h
  | ok a => exact ⟨a, rfl, h⟩

def fieldName (field : Option String) : String := field.getD "None"

namespace Refusal

def message : Refusal → String
  | .unreadable f _ shown t =>
    "Cannot parse value " ++ shown ++ " of parameter `" ++ fieldName f ++ "` as " ++ t.name
  | .notArray f k =>
    "Parameter `" ++ fieldName f ++ "` was validated as an array but holds " ++ k
  | .notCollection f k =>
    "Parameter `" ++ fieldName f ++ "` was validated as a collection but holds " ++ k
  | .zeroMultiple _ => "integer_in_multiples_of_number() needs a non-zero number"
  | .blankPart _ => "Array position needs a non-blank part name"
  | .badIndex _ shown => "Array position index must be an integer >= 0, got " ++ shown
  | .sharedMerge _ => "Cannot merge a context that shares this error list"
  | .finishedTwice _ => "finish() called twice on the same validation context"
  | .emptySeparator _ => "input_separator must not be empty"
  | .notBoolean n shown => "Environment variable " ++ n ++ " is not a boolean: " ++ shown
  | .notInteger n shown => "Environment variable " ++ n ++ " is not an integer: " ++ shown

def details : Refusal → List (String × Value)
  | .unreadable f v _ t =>
    [("field", .ofOption f), ("value", v), ("target", .text t.name)]
  | .notArray f k => [("field", .ofOption f), ("type", .text k)]
  | .notCollection f k => [("field", .ofOption f), ("type", .text k)]
  | .zeroMultiple f => [("field", .ofOption f)]
  | .blankPart f => [("field", .ofOption f)]
  | .badIndex f _ => [("field", .ofOption f)]
  | .sharedMerge r => [("resource", .ofOption r)]
  | .finishedTwice r => [("resource", .ofOption r)]
  | .emptySeparator n => [("name", .text n)]
  | .notBoolean n _ => [("name", .text n)]
  | .notInteger n _ => [("name", .text n)]

end Refusal
end Scrutiny
