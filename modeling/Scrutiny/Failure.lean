import Scrutiny.Fault

/-!
Failures as they reach a caller: what happened, a message, a status in the manner of web servers,
details and a stable code. Each kind has its status and code, which a caller may replace. A
refusal is a failure with the details of its cause; violations are one with their records.
-/

set_option autoImplicit false

namespace Scrutiny

inductive FailureKind where
  | general
  | misuse
  | unreadable
  | violations (errors : List ErrorRecord)

structure Failure where
  kind : FailureKind
  message : Value
  status : Value
  details : Value
  code : Value

namespace FailureKind

def status : FailureKind → Int
  | .general => 400
  | .misuse => 500
  | .unreadable => 500
  | .violations _ => 400

def code : FailureKind → String
  | .general => "request_validator_error"
  | .misuse => "invalid_usage"
  | .unreadable => "value_parse_error"
  | .violations _ => "validation.msg.validation.errors.exist"

def details? : FailureKind → Option Value
  | .violations errors => some (.list (errors.map ErrorRecord.toValue))
  | _ => none

def failure (k : FailureKind) (message : Value) (status details code : Option Value) : Failure :=
  ⟨k, message, status.getD (.int k.status), k.details?.getD (details.getD .null),
    code.getD (.text k.code)⟩

end FailureKind

def violationsMessage : String := "Validation errors exist."

def Failure.ofViolations (errors : List ErrorRecord) : Failure :=
  (FailureKind.violations errors).failure (.text violationsMessage) none none none

def Refusal.kind : Refusal → FailureKind
  | .unreadable .. => .unreadable
  | _ => .misuse

def Refusal.failure (r : Refusal) : Failure :=
  r.kind.failure (.text r.message) none
    (some (.dict (r.details.map fun d => (.text d.1, d.2)))) none

/-- The failure that a fault is for the caller, unless it is one of the operations beneath. -/
def Fault.failure? : Fault → Option Failure
  | .refused r => some r.failure
  | .violations errors => some (.ofViolations errors)
  | _ => none

end Scrutiny
