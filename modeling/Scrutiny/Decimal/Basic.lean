import Scrutiny.Power
import Scrutiny.Text.Integer

/-!
Decimal numbers with their written exponent. A finite one is a sign, a coefficient and a power
of ten, so `1.50` and `1.5` are different decimals of the same value; beside them stand the two
infinities and the undefined results, quiet or signaling. No undefined number equals any number, so
that two of them can only be told to be one and the same by the object in memory, which is kept as a
number. The order of two finite ones is the order of their values, found without writing out large
powers of ten.
-/

set_option autoImplicit false

namespace Scrutiny

inductive Decimal where
  | finite (negative : Bool) (coefficient : Nat) (exponent : Int)
  | infinite (negative : Bool)
  | undefined (negative signaling : Bool) (payload object : Nat)
  deriving DecidableEq

namespace Decimal

open Text

def ofInt (n : Int) : Decimal := .finite (n < 0) n.natAbs 0

def isFinite : Decimal → Bool
  | .finite .. => true
  | _ => false

def isSignaling : Decimal → Bool
  | .undefined _ s _ _ => s
  | _ => false

def digitCount (n : Nat) : Nat := (naturalText n).length

def leadingPower (coefficient : Nat) (exponent : Int) : Int :=
  exponent + digitCount coefficient - 1

/-- Compares `c · 10^e` with `d · 10^f`. Powers are only written out when the leading digits
stand at the same place, and then the exponents differ by less than a coefficient's length. -/
def compareMagnitude (c : Nat) (e : Int) (d : Nat) (f : Int) : Ordering :=
  if c = 0 ∨ d = 0 then compare c d
  else
    match compare (leadingPower c e) (leadingPower d f) with
    | .eq => compare (c * tenTo (e - f).toNat) (d * tenTo (f - e).toNat)
    | o => o

def Sign.flip (negative : Bool) (o : Ordering) : Ordering := if negative then o.swap else o

/-- The order of two decimals by value; none if one of them is undefined. -/
def compare? : Decimal → Decimal → Option Ordering
  | .undefined .., _ => none
  | _, .undefined .. => none
  | .infinite n, .infinite m => some (compare m.toNat n.toNat)
  | .infinite n, .finite .. => some (Sign.flip n .gt)
  | .finite .., .infinite n => some (Sign.flip n .lt)
  | .finite n c e, .finite m d f =>
    if c = 0 ∧ d = 0 then some .eq
    else if c = 0 then some (Sign.flip m .lt)
    else if d = 0 then some (Sign.flip n .gt)
    else if n = m then some (Sign.flip n (compareMagnitude c e d f))
    else some (Sign.flip n .gt)

end Decimal
end Scrutiny
