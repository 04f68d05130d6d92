/-!
Problems with a report that is read back: what is wrong, and the way to it through field names and
list positions.
-/

set_option autoImplicit false

namespace Scrutiny.Report

inductive Step where
  | field (name : String)
  | item (index : Nat)
  deriving DecidableEq

inductive ProblemKind where
  | missing
  | notText
  /-- Bytes that are no text. -/
  | brokenText
  | notList
  | notRecord
  deriving DecidableEq

structure Problem where
  kind : ProblemKind
  place : List Step
  deriving DecidableEq

end Scrutiny.Report
