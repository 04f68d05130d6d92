import Scrutiny.Decimal.Scale

/-!
Whether a decimal is a whole multiple of another. The quotient may have at most the working
number of digits; a longer one makes the question undefined. Nothing is a multiple of an
infinity but zero.
-/

set_option autoImplicit false

namespace Scrutiny.Decimal

/-- Whether `c · 10^e` is a multiple of `d · 10^f`; none if the quotient is too long. -/
def isMultipleMagnitude (c : Nat) (e : Int) (d : Nat) (f : Int) : Option Bool :=
  if c = 0 then some true
  else if leadingPower c e < leadingPower d f then some false
  else if (workingDigits : Int) < leadingPower c e - leadingPower d f then none
  else
    let a := c * tenTo (e - f).toNat
    let b := d * tenTo (f - e).toNat
    if workingDigits < digitCount (a / b) then none else some (a % b == 0)

def isMultiple : Decimal → Decimal → Option Bool
  | .finite _ c e, .finite _ d f => if d = 0 then none else isMultipleMagnitude c e d f
  | .finite _ c _, .infinite _ => some (c == 0)
  | _, _ => none

end Scrutiny.Decimal
