import Scrutiny.Decimal.Basic

/-!
Binary floating-point numbers of double precision. A finite one is a sign, a mantissa below
`2^53` and a power of two not below `-1074`, kept in the one form where the mantissa is as long
as possible; an undefined one has the object it is kept in. Rounding a fraction gives the nearest one, the even mantissa at a tie.
-/

set_option autoImplicit false

namespace Scrutiny

inductive Double where
  | finite (negative : Bool) (mantissa : Nat) (exponent : Int)
  | infinite (negative : Bool)
  | undefined (object : Nat)
  deriving DecidableEq

namespace Double

def mantissaBits : Nat := 53
def leastExponent : Int := -1074
def greatestExponent : Int := 971

/-- The fraction `num / den` in units of `2^q`, as a quotient and a remainder over a divisor. -/
def inUnits (num den : Nat) (q : Int) : Nat × Nat × Nat :=
  let a := num * twoTo (-q).toNat
  let b := den * twoTo q.toNat
  (a / b, a % b, b)

def nearest : Nat × Nat × Nat → Nat
  | (w, r, b) => if 2 * r < b then w else if b < 2 * r then w + 1 else w + w % 2

def unitFor (num den : Nat) : Int :=
  let guess : Int := (Nat.log2 num : Int) - Nat.log2 den - (mantissaBits - 1)
  let fits := (inUnits num den guess).1 < twoTo (mantissaBits - 1)
  max leastExponent (if fits then guess - 1 else guess)

/-- The double nearest to `num / den`; one that is too large becomes infinite. -/
def ofFraction (negative : Bool) (num den : Nat) : Double :=
  if num = 0 then .finite negative 0 leastExponent
  else
    let q := unitFor num den
    let m := nearest (inUnits num den q)
    let (m, q) := if m = twoTo mantissaBits then (twoTo (mantissaBits - 1), q + 1) else (m, q)
    if greatestExponent < q then .infinite negative else .finite negative m q

def tenPowerRange : Int := 400

def ofScientific (negative : Bool) (c : Nat) (e : Int) : Double :=
  if c = 0 then .finite negative 0 leastExponent
  else if tenPowerRange < Decimal.leadingPower c e then .infinite negative
  else if Decimal.leadingPower c e < -tenPowerRange then .finite negative 0 leastExponent
  else ofFraction negative (c * tenTo e.toNat) (tenTo (-e).toNat)

/-- The exact value as a decimal: a negative power of two is a power of five over one of ten. -/
def toDecimal : Double → Decimal
  | .finite n m q => .finite n (m * twoTo q.toNat * fiveTo (-q).toNat) (min q 0)
  | .infinite n => .infinite n
  | .undefined k => .undefined false false 0 k

end Double
end Scrutiny
