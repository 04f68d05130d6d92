import Scrutiny.Fault

/-!
Equality of values. Numbers are equal across kinds when they stand for the same number, truth
values counting as one and zero; an undefined number equals nothing, and comparing a signaling
one is a fault. Lists differ from tuples, while the two kinds of sets do not differ. Members of a
collection are equal without a look at them if they are one object, which makes a difference for
undefined numbers alone. Sameness is equality of values of one kind.
-/

set_option autoImplicit false

namespace Scrutiny.Value

/-- The number a value stands for, if it is one. -/
def number? : Value → Option Decimal
  | .bool b => some (.ofInt b.toNat)
  | .int n => some (.ofInt n)
  | .real x => some x.toDecimal
  | .decimal d => some d
  | _ => none

def equalNumbers (a b : Decimal) : Except Fault Bool :=
  if a.isSignaling || b.isSignaling then .error .undefinedNumber
  else .ok (a.compare? b == some .eq)

def setItems? : Value → Option (List Value)
  | .set items => some items
  | .frozenset items => some items
  | _ => none

def isUndefined : Value → Bool
  | .real (.undefined _) => true
  | .decimal (.undefined ..) => true
  | _ => false

/-- Whether two undefined numbers are one object. -/
def isOneObject : Value → Value → Bool
  | .real (.undefined k), .real (.undefined l) => k == l
  | .decimal (.undefined n s p k), .decimal (.undefined m t q l) =>
    Decimal.undefined n s p k == .undefined m t q l
  | _, _ => false

/-- An answer for two values that is not asked for where they are one object. -/
def orOne (a b : Value) (answer : Except Fault Bool) : Except Fault Bool :=
  if a.isOneObject b then .ok true else answer

mutual

def equal : Value → Value → Except Fault Bool
  | .null, .null => .ok true
  | .text a, .text b => .ok (a == b)
  | .bytes a, .bytes b => .ok (a == b)
  | .date a, .date b => .ok (a == b)
  | .moment a, .moment b => .ok (a.compare? b == some .eq)
  | .list as, .list bs => if as.length = bs.length then equalItems as bs else .ok false
  | .tuple as, .tuple bs => equalItems as bs
  | .dict as, .dict bs => if as.length = bs.length then equalEntries as bs else .ok false
  | .set as, b => equalSet as b
  | .frozenset as, b => equalSet as b
  | a, b =>
    match a.number?, b.number? with
    | some x, some y => equalNumbers x y
    | _, _ => .ok false

def equalItems : List Value → List Value → Except Fault Bool
  | [], [] => .ok true
  | a :: as, b :: bs => do
    if ← orOne a b (equal a b) then equalItems as bs else return false
  | _, _ => .ok false

def equalSet (as : List Value) (b : Value) : Except Fault Bool :=
  match b.setItems? with
  | some bs => if as.length = bs.length then subset as bs else .ok false
  | none => .ok false

def subset : List Value → List Value → Except Fault Bool
  | [], _ => .ok true
  | a :: as, bs => do if ← equalsSome a bs then subset as bs else return false

def equalsSome (a : Value) (bs : List Value) : Except Fault Bool :=
  bs.anyM fun b => orOne a b (equal a b)

def equalEntries : List (Value × Value) → List (Value × Value) → Except Fault Bool
  | [], _ => .ok true
  | (k, v) :: es, bs => do
    match ← bs.findM? fun b => orOne k b.1 (equal k b.1) with
    | some b => if ← orOne v b.2 (equal v b.2) then equalEntries es bs else return false
    | none => return false

end

/-- Equality as a collection has it for its members. -/
def equalWithin (a b : Value) : Except Fault Bool := orOne a b (equal a b)

def same (a b : Value) : Except Fault Bool :=
  if a.kind = b.kind then equal a b else .ok false

/-- Adds an entry to a dictionary: an equal key keeps its place and takes the new value. -/
def putEntry (es : List (Value × Value)) (k v : Value) : Except Fault (List (Value × Value)) :=
  match es with
  | [] => .ok [(k, v)]
  | e :: r => do
    if ← equalWithin e.1 k then return (e.1, v) :: r else return e :: (← putEntry r k v)

def dictOf (es : List (Value × Value)) : Except Fault Value := do
  return .dict (← es.foldlM (fun acc e => putEntry acc e.1 e.2) [])

def putItem (items : List Value) (v : Value) : Except Fault (List Value) := do
  if ← items.anyM fun i => equalWithin i v then return items else return items ++ [v]

def itemsOf (items : List Value) : Except Fault (List Value) := items.foldlM putItem []

end Scrutiny.Value
