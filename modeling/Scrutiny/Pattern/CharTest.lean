import Scrutiny.Text.Blank
import Scrutiny.Text.Digit
import Scrutiny.Text.LetterCase
import Scrutiny.Text.Word

/-!
Tests of single characters in patterns: one code point, any character, or a set of code points,
ranges and kinds. Ignoring case, a character passes when its lower case is the lower case of a
listed one or shares a letter with it.
-/

set_option autoImplicit false

namespace Scrutiny.Pattern

open Text

/-- How case is ignored: not at all, for ASCII letters, or for every letter. -/
inductive Fold where
  | exact
  | ascii
  | full
  deriving DecidableEq

inductive CharKind where
  | digit
  | blank
  | word
  deriving DecidableEq

inductive Script where
  | every
  | ascii
  deriving DecidableEq

def isAsciiBlank (c : Char) : Bool := (9 ≤ c.toNat && c.toNat ≤ 13) || c.toNat == 32

def CharKind.holds (s : Script) (k : CharKind) (c : Char) : Bool :=
  match s, k with
  | .every, .digit => isDigit c
  | .every, .blank => isBlank c
  | .every, .word => isWord c
  | .ascii, .digit => c.isDigit
  | .ascii, .blank => isAsciiBlank c
  | .ascii, .word => isAsciiWord c

inductive SetItem where
  | code (n : Nat)
  | range (low high : Nat)
  | kind (k : CharKind) (negated : Bool)

inductive CharTest where
  | code (n : Nat)
  | any (alsoNewline : Bool)
  | set (items : List SetItem) (negated : Bool)

def Fold.lower (f : Fold) (n : Nat) : Nat :=
  match f with
  | .exact => n
  | .ascii => if n < 128 then (Char.ofNat n).toLower.toNat else n
  | .full => if n.isValidChar then (lowerChar (Char.ofNat n)).toNat else n

def Fold.isCased (f : Fold) (n : Nat) : Bool :=
  match f with
  | .exact => false
  | .ascii => n < 128 && (Char.ofNat n).isAlpha
  | .full =>
    n.isValidChar &&
      (f.lower n != n || (upperChar (Char.ofNat n)).head? != some (Char.ofNat n))

/-- Code points that a lower-case code point matches: itself and those that share its letter. -/
def Fold.family (f : Fold) (n : Nat) : List Nat :=
  match f with
  | .full => n :: (sharedCase (Char.ofNat n)).map Char.toNat
  | _ => [n]

def Fold.above (f : Fold) (n : Nat) : List Nat :=
  match f with
  | .exact => [n]
  | .ascii => [n, (Char.ofNat n).toUpper.toNat].filter (f.lower · == n)
  | .full =>
    (n :: 0x130 :: lowerRows.map fun r => ((n : Int) - r.shift).toNat).filter (f.lower · == n)

/-- A range longer than this has a letter with a case among its first code points. -/
def rangeProbe : Nat := 70000

def SetItem.isCased (f : Fold) : SetItem → Bool
  | .code n => f.isCased n
  | .range low high =>
    (List.range (min (high + 1 - low) rangeProbe)).any fun i => f.isCased (low + i)
  | .kind .. => false

def SetItem.holds (s : Script) (c : Char) : SetItem → Bool
  | .code n => c.toNat == n
  | .range low high => low ≤ c.toNat && c.toNat ≤ high
  | .kind k negated => k.holds s c != negated

def SetItem.holdsFolded (s : Script) (f : Fold) (c : Char) : SetItem → Bool
  | .code n => (f.family (f.lower n)).contains (f.lower c.toNat)
  | .range low high =>
    ((f.family (f.lower c.toNat)).flatMap f.above).any fun n => low ≤ n && n ≤ high
  | .kind k negated => k.holds s (Char.ofNat (f.lower c.toNat)) != negated

def CharTest.holds (s : Script) (f : Fold) (c : Char) : CharTest → Bool
  | .code n =>
    if f.isCased n then (SetItem.code n).holdsFolded s f c else c.toNat == n
  | .any alsoNewline => alsoNewline || c != '\n'
  | .set items negated =>
    let folded := items.any (SetItem.isCased f)
    (items.any fun i => if folded then i.holdsFolded s f c else i.holds s c) != negated

end Scrutiny.Pattern
