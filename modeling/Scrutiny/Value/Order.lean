import Scrutiny.Value.Equal

/-!
The order of values. Numbers are ordered by what they stand for; an undefined one is below and
above nothing, and a fault if a decimal takes part. Texts, bytes and sequences are ordered by
their first difference, sets by inclusion. Values of unlike kinds have no order.
-/

set_option autoImplicit false

namespace Scrutiny

inductive Comparison where
  | less
  | atMost
  | greater
  | atLeast
  deriving DecidableEq

def Comparison.holds : Comparison → Ordering → Bool
  | .less, o => o == .lt
  | .atMost, o => o != .gt
  | .greater, o => o == .gt
  | .atLeast, o => o != .lt

namespace Value

def isDecimal : Value → Bool
  | .decimal _ => true
  | _ => false

def compareNumbers (op : Comparison) (strict : Bool) (a b : Decimal) : Except Fault Bool :=
  match a.compare? b with
  | some o => .ok (op.holds o)
  | none => if strict then .error .undefinedNumber else .ok false

def compareNats : List Nat → List Nat → Ordering
  | [], [] => .eq
  | [], _ :: _ => .lt
  | _ :: _, [] => .gt
  | a :: as, b :: bs => if a = b then compareNats as bs else compare a b

def compareTexts (a b : String) : Ordering :=
  compareNats (a.toList.map Char.toNat) (b.toList.map Char.toNat)

def compareSets (op : Comparison) (as bs : List Value) : Except Fault Bool :=
  match op with
  | .less => do return as.length < bs.length && (← subset as bs)
  | .atMost => do return as.length ≤ bs.length && (← subset as bs)
  | .greater => do return bs.length < as.length && (← subset bs as)
  | .atLeast => do return bs.length ≤ as.length && (← subset bs as)

def compareScalars (op : Comparison) (a b : Value) : Except Fault Bool :=
  match a, b with
  | .text x, .text y => .ok (op.holds (compareTexts x y))
  | .bytes x, .bytes y =>
    .ok (op.holds (compareNats (x.map UInt8.toNat) (y.map UInt8.toNat)))
  | .date x, .date y => .ok (op.holds (compare x.count y.count))
  | .moment x, .moment y =>
    match x.compare? y with
    | some o => .ok (op.holds o)
    | none => .error .wrongKind
  | a, b =>
    match a.number?, b.number?, a.setItems?, b.setItems? with
    | some x, some y, _, _ => compareNumbers op (a.isDecimal || b.isDecimal) x y
    | _, _, some x, some y => compareSets op x y
    | _, _, _, _ => .error .wrongKind

mutual

def compares (op : Comparison) : Value → Value → Except Fault Bool
  | .list as, .list bs => comparesItems op as bs
  | .tuple as, .tuple bs => comparesItems op as bs
  | a, b => compareScalars op a b

def comparesItems (op : Comparison) : List Value → List Value → Except Fault Bool
  | [], [] => .ok (op.holds .eq)
  | [], _ :: _ => .ok (op.holds .lt)
  | _ :: _, [] => .ok (op.holds .gt)
  | a :: as, b :: bs => do
    if ← equalWithin a b then comparesItems op as bs else compares op a b

end

def less (a b : Value) : Except Fault Bool := compares .less a b

def atMost (a b : Value) : Except Fault Bool := compares .atMost a b

def greater (a b : Value) : Except Fault Bool := compares .greater a b

def atLeast (a b : Value) : Except Fault Bool := compares .atLeast a b

end Value
end Scrutiny
