import Scrutiny.Fault
import Scrutiny.Text.LetterCase
import Scrutiny.Text.Pieces
import Scrutiny.Text.Quoted

/-!
Parts of a recurrence rule: pairs of a name and a value, separated by semicolons and read in upper
case. Some parts list integers and have a range; a part that counts from an end takes negative
ones too. Of several parts with one name the last one counts.
-/

set_option autoImplicit false

namespace Scrutiny.Recurrence

open Text

def mark : List Char := "RRULE:".toList

/-- The rule without blanks around it and without the mark in front. -/
def body (t : List Char) : List Char :=
  let b := trim t
  if mark.isPrefixOf (upper b) then b.drop mark.length else b

def isNameChar (c : Char) : Bool := c.isAlpha || c = '-'

def isName : List Char → Bool
  | [] => false
  | c :: r => c.isAlpha && r.all isNameChar

def isValue (t : List Char) : Bool := !t.isEmpty && t.all fun c => c ≠ '=' && c ≠ ';'

structure Part where
  name : List Char
  value : List Char
  deriving DecidableEq

def part? (t : List Char) : Option Part :=
  match cutOnce '=' (trim t) with
  | (name, some value) =>
    if isName name && isValue value then some ⟨upper name, upper value⟩ else none
  | (_, none) => none

/-- The parts of a rule; none if it cannot be cut into parts. -/
def parts? (t : List Char) : Option (List Part) := (cutAt ';' (body t)).mapM part?

def valueOf? (name : String) (ps : List Part) : Option (List Char) :=
  (ps.reverse.find? fun p => p.name = name.toList).map Part.value

structure Limits where
  name : String
  low : Nat
  high : Nat
  signed : Bool

def limits : List Limits := [
  ⟨"BYSECOND", 0, 60, false⟩, ⟨"BYMINUTE", 0, 59, false⟩, ⟨"BYHOUR", 0, 23, false⟩,
  ⟨"BYMONTHDAY", 1, 31, true⟩, ⟨"BYYEARDAY", 1, 366, true⟩, ⟨"BYWEEKNO", 1, 53, true⟩,
  ⟨"BYMONTH", 1, 12, false⟩, ⟨"BYSETPOS", 1, 366, true⟩]

inductive PartProblem where
  | countAndUntil
  | noInteger (name : String) (item : List Char)
  | negative (name : String) (n : Int)
  | outside (l : Limits) (n : Int)

def PartProblem.reason : PartProblem → String
  | .countAndUntil => "COUNT and UNTIL must not both be set"
  | .noInteger name item =>
    name ++ " value " ++ String.ofList (quoted item) ++ " is not an integer"
  | .negative name n =>
    name ++ " value " ++ String.ofList (integerText n) ++ " must not be negative"
  | .outside l n =>
    l.name ++ " value " ++ String.ofList (integerText n) ++ " outside " ++
      String.ofList (naturalText l.low) ++ ".." ++ String.ofList (naturalText l.high)

def Limits.integerProblem? (l : Limits) (n : Int) : Option PartProblem :=
  if n < 0 ∧ l.signed = false then some (.negative l.name n)
  else if l.low ≤ n.natAbs ∧ n.natAbs ≤ l.high then none
  else some (.outside l n)

/-- What is wrong with an item; an integer that is too long to be read is a fault. -/
def Limits.itemProblem? (l : Limits) (item : List Char) : Except Fault (Option PartProblem) :=
  if isSignedDigits item then
    match signedValue? item with
    | some n => .ok (l.integerProblem? n)
    | none => .error .wrongValue
  else .ok (some (.noInteger l.name item))

def firstProblem? {α : Type} (test : α → Except Fault (Option PartProblem)) :
    List α → Except Fault (Option PartProblem)
  | [] => .ok none
  | a :: as => do
    match ← test a with
    | some p => return some p
    | none => firstProblem? test as

def Limits.problem? (ps : List Part) (l : Limits) : Except Fault (Option PartProblem) :=
  match valueOf? l.name ps with
  | some v => firstProblem? l.itemProblem? (cutAt ',' v)
  | none => .ok none

def problem? (ps : List Part) : Except Fault (Option PartProblem) :=
  if (valueOf? "COUNT" ps).isSome && (valueOf? "UNTIL" ps).isSome then
    .ok (some .countAndUntil)
  else firstProblem? (Limits.problem? ps) limits

end Scrutiny.Recurrence
