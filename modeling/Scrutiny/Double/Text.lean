import Scrutiny.Double.Basic
import Scrutiny.Decimal.Text

/-!
Doubles as text: the fewest digits that read back as the same number, and of those the nearest
to it. The digits are found by trying one grid of decimals after the other, each ten times finer,
until one of the two neighbours of the number lies among the decimals that round to it. How the
digits are laid out is a record, since two layouts are in use.
-/

set_option autoImplicit false

namespace Scrutiny.Double

open Text

/-- A decimal `digits · 10^power` in exact fractions of a double's half unit. -/
structure Gap where
  num : Nat
  low : Nat
  high : Nat
  den : Nat
  closed : Bool

def gap (m : Nat) (q : Int) : Gap :=
  let up := twoTo q.toNat
  let den := 4 * twoTo (-q).toNat
  let below := if m = twoTo (mantissaBits - 1) ∧ leastExponent < q then 1 else 2
  ⟨4 * m * up, (4 * m - below) * up, (4 * m + 2) * up, den, m % 2 == 0⟩

def Gap.holds (g : Gap) (d : Nat) (k : Int) : Bool :=
  let x := d * tenTo k.toNat * g.den
  let scale := tenTo (-k).toNat
  if g.closed then g.low * scale ≤ x && x ≤ g.high * scale
  else g.low * scale < x && x < g.high * scale

def Gap.neighbours (g : Gap) (k : Int) : List Nat :=
  let a := g.num * tenTo (-k).toNat
  let b := g.den * tenTo k.toNat
  let d := a / b
  if 2 * (a % b) < b ∨ (2 * (a % b) = b ∧ d % 2 = 0) then [d, d + 1] else [d + 1, d]

def Gap.search (g : Gap) : Nat → Int → Nat × Int
  | 0, k => (((g.neighbours k).head?).getD 0, k)
  | fuel + 1, k =>
    match (g.neighbours k).find? (fun d => 0 < d && g.holds d k) with
    | some d => (d, k)
    | none => Gap.search g fuel (k - 1)

def Gap.ceiling (g : Gap) : Int :=
  let n := Decimal.digitCount (g.num / g.den)
  if g.num / g.den = 0 then -(Decimal.digitCount (g.den / g.num) : Int) + 1 else n

/-- Digits without zeros at the end, and where the point stands counted from their front. -/
def shortest (m : Nat) (q : Int) : List Char × Int :=
  let g := gap m q
  let (d, k) := g.search 20 g.ceiling
  let digits := naturalText d
  (trimZeros digits, k + digits.length)
where
  trimZeros (t : List Char) : List Char := (t.reverse.dropWhile (· == '0')).reverse

/-- A layout: between which places of the point the number is written without an exponent, how
many digits an exponent has at least, and the texts that stand for no finite number. -/
structure Layout where
  lowestPlace : Int
  highestPlace : Int
  exponentDigits : Nat
  infinite : List Char
  undefined : List Char

def Layout.finite (l : Layout) (m : Nat) (q : Int) : List Char :=
  if m = 0 then ['0', '.', '0']
  else
    let (digits, place) := shortest m q
    if l.lowestPlace ≤ place ∧ place ≤ l.highestPlace then
      Decimal.withPoint digits place ++
        (if (digits.length : Int) ≤ place then ['.', '0'] else [])
    else
      let e := place - 1
      digits.take 1 ++ (if digits.length ≤ 1 then [] else '.' :: digits.drop 1) ++
        'e' :: (if e < 0 then '-' else '+') :: padded l.exponentDigits e.natAbs

def Layout.text (l : Layout) : Double → List Char
  | .finite n m q => Decimal.signText n ++ l.finite m q
  | .infinite n => Decimal.signText n ++ l.infinite
  | .undefined _ => l.undefined

def plainLayout : Layout := ⟨-3, 16, 2, ['i', 'n', 'f'], ['n', 'a', 'n']⟩

def text (x : Double) : List Char := plainLayout.text x

def number? (negative : Bool) (mantissa : List Char) (exponent : Int) : Option Double :=
  let whole := (cutOnce '.' mantissa).1
  let fraction := ((cutOnce '.' mantissa).2).getD []
  let grouped (t : List Char) := if t.isEmpty then some [] else groupedDigits? t
  match grouped whole, grouped fraction with
  | some w, some f =>
    if (w ++ f).isEmpty then none
    else some (ofScientific negative (positional (w ++ f)) (exponent - f.length))
  | _, _ => none

def unsigned? (negative : Bool) (t : List Char) : Option Double :=
  match t with
  | ['i', 'n', 'f'] => some (.infinite negative)
  | ['i', 'n', 'f', 'i', 'n', 'i', 't', 'y'] => some (.infinite negative)
  | ['n', 'a', 'n'] => some (.undefined 0)
  | _ =>
    match cutOnce 'e' t with
    | (m, none) => number? negative m 0
    | (m, some x) =>
      match groupedDigits? (signOf x).2 with
      | some ds => number? negative m (signed (signOf x).1 (positional ds))
      | none => none

def read? (t : List Char) : Option Double :=
  let body := (trim t).map Decimal.plain
  unsigned? (signOf body).1 (signOf body).2

end Scrutiny.Double
