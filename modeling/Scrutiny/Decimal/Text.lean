import Scrutiny.Decimal.Basic
import Scrutiny.Text.Pieces

/-!
Decimals as text. A decimal is written with all its digits; the exponent is folded into a point
where that takes no zeros at the end and at most five after the point in front, and follows the
letter E elsewhere. Reading takes digits of every script, ignores underscores anywhere and
blanks at the ends, and keeps every digit and the exponent.
-/

set_option autoImplicit false

namespace Scrutiny.Decimal

open Text

def signText (negative : Bool) : List Char := if negative then ['-'] else []

/-- Digits with a point after the first `place` of them, zeros filled in on either side. -/
def withPoint (digits : List Char) (place : Int) : List Char :=
  if place ≤ 0 then '0' :: '.' :: List.replicate (-place).toNat '0' ++ digits
  else if place < digits.length then
    digits.take place.toNat ++ '.' :: digits.drop place.toNat
  else digits ++ List.replicate (place.toNat - digits.length) '0'

def exponentText (e : Int) : List Char :=
  if e = 0 then [] else 'E' :: (if e < 0 then '-' else '+') :: naturalText e.natAbs

def finiteText (coefficient : Nat) (exponent : Int) : List Char :=
  let digits := naturalText coefficient
  let left := exponent + digits.length
  if exponent ≤ 0 ∧ -6 < left then withPoint digits left
  else withPoint digits 1 ++ exponentText (left - 1)

def text : Decimal → List Char
  | .finite n c e => signText n ++ finiteText c e
  | .infinite n => signText n ++ ['I', 'n', 'f', 'i', 'n', 'i', 't', 'y']
  | .undefined n s p _ =>
    signText n ++ (if s then ['s'] else []) ++ ['N', 'a', 'N'] ++
      (if p = 0 then [] else naturalText p)

/-- A character as it counts for reading: any digit as its ASCII form. -/
def plain (c : Char) : Char :=
  match digitValue? c with
  | some d => Nat.digitChar d
  | none => c.toLower

def exponent? (t : List Char) : Option Int :=
  if isSignedDigits t then some (signed (signOf t).1 (positional (signOf t).2)) else none

/-- The largest exponent of a leading digit and the least exponent that can be read. -/
def highestPower : Int := 999999999999999999
def lowestExponent : Int := -1999999999999999997

def bounded? (negative : Bool) (coefficient : Nat) (exponent : Int) : Option Decimal :=
  if leadingPower coefficient exponent ≤ highestPower ∧ lowestExponent ≤ exponent then
    some (.finite negative coefficient exponent)
  else none

def number? (negative : Bool) (mantissa : List Char) (exponent : Int) : Option Decimal :=
  let whole := (cutOnce '.' mantissa).1
  let fraction := ((cutOnce '.' mantissa).2).getD []
  if (whole ++ fraction).isEmpty || !(whole ++ fraction).all isDigit then none
  else bounded? negative (positional (whole ++ fraction)) (exponent - fraction.length)

def unsigned? (negative : Bool) (t : List Char) : Option Decimal :=
  match t with
  | ['i', 'n', 'f'] => some (.infinite negative)
  | ['i', 'n', 'f', 'i', 'n', 'i', 't', 'y'] => some (.infinite negative)
  | 'n' :: 'a' :: 'n' :: p =>
    if p.all isDigit then some (.undefined negative false (positional p) 0) else none
  | 's' :: 'n' :: 'a' :: 'n' :: p =>
    if p.all isDigit then some (.undefined negative true (positional p) 0) else none
  | _ =>
    match cutOnce 'e' t with
    | (m, none) => number? negative m 0
    | (m, some x) => (exponent? x).bind (number? negative m)

def read? (t : List Char) : Option Decimal :=
  let body := ((trim t).filter (· != '_')).map plain
  unsigned? (signOf body).1 (signOf body).2

end Scrutiny.Decimal
