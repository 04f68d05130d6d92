import Scrutiny.Calendar.Iso
import Scrutiny.Double.Text

/-!
The values that are validated: what a request can carry and what a caller can compare it with.
Texts, bytes, dates and moments are values of their own; lists and tuples differ in kind, and so
do sets and frozen sets; a dictionary keeps its entries in the order in which they came.
-/

set_option autoImplicit false

namespace Scrutiny

open Calendar

inductive Value where
  | null
  | bool (b : Bool)
  | int (n : Int)
  | real (x : Double)
  | decimal (d : Decimal)
  | text (s : String)
  | bytes (bs : List UInt8)
  | date (d : Date)
  | moment (m : Moment)
  | list (items : List Value)
  | tuple (items : List Value)
  | dict (entries : List (Value × Value))
  | set (items : List Value)
  | frozenset (items : List Value)
  deriving Inhabited

namespace Value

def kind : Value → String
  | .null => "NoneType"
  | .bool _ => "bool"
  | .int _ => "int"
  | .real _ => "float"
  | .decimal _ => "Decimal"
  | .text _ => "str"
  | .bytes _ => "bytes"
  | .date _ => "date"
  | .moment _ => "datetime"
  | .list _ => "list"
  | .tuple _ => "tuple"
  | .dict _ => "dict"
  | .set _ => "set"
  | .frozenset _ => "frozenset"

def isNull : Value → Bool
  | .null => true
  | _ => false

theorem isNull_of_ne {v : Value} (h : v ≠ .null) : v.isNull = false := by
  cases v with
  | null => exact absurd rfl h
  | _ => rfl

def ofOption : Option String → Value
  | none => .null
  | some s => .text s

/-- Whether a value counts as true: zeros, empty texts and empty collections do not. -/
def isTrue : Value → Bool
  | .null => false
  | .bool b => b
  | .int n => n != 0
  | .real (.finite _ m _) => m != 0
  | .real _ => true
  | .decimal (.finite _ c _) => c != 0
  | .decimal _ => true
  | .text s => s != ""
  | .bytes bs => !bs.isEmpty
  | .date _ => true
  | .moment _ => true
  | .list items => !items.isEmpty
  | .tuple items => !items.isEmpty
  | .dict entries => !entries.isEmpty
  | .set items => !items.isEmpty
  | .frozenset items => !items.isEmpty

def listItems? : Value → Option (List Value)
  | .list items => some items
  | .tuple items => some items
  | _ => none

/-- The members of a value that can be walked through: characters of a text, numbers of bytes,
keys of a dictionary. -/
def members? : Value → Option (List Value)
  | .text s => some (s.toList.map fun c => .text (String.singleton c))
  | .bytes bs => some (bs.map fun b => .int b.toNat)
  | .list items => some items
  | .tuple items => some items
  | .dict entries => some (entries.map Prod.fst)
  | .set items => some items
  | .frozenset items => some items
  | _ => none

end Value
end Scrutiny
