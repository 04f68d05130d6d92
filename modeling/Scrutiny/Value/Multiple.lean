import Scrutiny.Decimal.Multiple
import Scrutiny.Value.Equal

/-!
Whether an integer is a whole multiple of a number of any kind. A double divides by its exact
value; nothing but zero is a multiple of an infinite one and nothing at all of an undefined one.
-/

set_option autoImplicit false

namespace Scrutiny

def Double.divides (x : Double) (n : Int) : Bool :=
  match x with
  | .finite _ m q => n * twoTo (-q).toNat % (m * twoTo q.toNat : Nat) == 0
  | .infinite _ => n == 0
  | .undefined _ => false

namespace Value

def isMultipleOf (a b : Value) : Except Fault Bool :=
  match a, b with
  | .int n, .int m => .ok (n % m == 0)
  | .int n, .bool b => .ok (n % b.toNat == 0)
  | .int n, .real x => .ok (x.divides n)
  | .int n, .decimal d =>
    match (Decimal.ofInt n).isMultiple d with
    | some r => .ok r
    | none => .error .undefinedNumber
  | _, _ => .error .wrongKind

end Value
end Scrutiny
