import Scrutiny.Decimal.Basic

/-!
The scale of a decimal: how many digits it has after the point once it is reduced. Reducing
rounds to 28 digits, a half going to the even neighbour, and to the least exponent that the
working range has, then drops the zeros at the end. A number whose leading digit lies above the
range cannot be reduced, and infinities and undefined results have no scale.
-/

set_option autoImplicit false

namespace Scrutiny.Decimal

def workingDigits : Nat := 28

def highestWorking : Int := 999999
def lowestWorking : Int := -999999

/-- The least exponent in the working range: the last digit of the least full-length number. -/
def leastExponent : Int := lowestWorking - (workingDigits - 1)

/-- Divides by `10^k`; a half goes to the even neighbour. A divisor that is far too large for
the number is not written out. -/
def shiftRound (n k : Nat) : Nat :=
  if digitCount n < k then 0
  else
    let d := tenTo k
    let q := n / d
    let r := n % d
    if 2 * r < d then q else if d < 2 * r then q + 1 else q + q % 2

def stripZeros : Nat → Nat → Int → Nat × Int
  | 0, c, e => (c, e)
  | fuel + 1, c, e => if c ≠ 0 ∧ c % 10 = 0 then stripZeros fuel (c / 10) (e + 1) else (c, e)

inductive ScaleError where
  | signaling
  | aboveRange
  | noScale

def rounded (c : Nat) (e : Int) : Nat × Int :=
  if leadingPower c e < lowestWorking then
    if e < leastExponent then (shiftRound c (leastExponent - e).toNat, leastExponent) else (c, e)
  else
    let extra := digitCount c - workingDigits
    (shiftRound c extra, e + extra)

def reduced (c : Nat) (e : Int) : Except ScaleError (Nat × Int) :=
  if c = 0 then .ok (0, 0)
  else if highestWorking < leadingPower c e then .error .aboveRange
  else
    let (c', e') := rounded c e
    if c' = 0 then .ok (0, 0)
    else if highestWorking < leadingPower c' e' then .error .aboveRange
    else .ok (stripZeros (digitCount c') c' e')

def scale : Decimal → Except ScaleError Nat
  | .finite _ c e => (reduced c e).map fun r => (-r.2).toNat
  | .undefined _ true _ _ => .error .signaling
  | _ => .error .noScale

end Scrutiny.Decimal
