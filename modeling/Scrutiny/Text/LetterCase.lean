import Scrutiny.Text.CaseTable

/-!
Changing the case of text. Upper case works letter by letter, though a letter may become
several. Lower case does too, with two exceptions: the dotted capital I leaves a combining dot
behind, and a capital sigma that ends a word takes its final form.
-/

set_option autoImplicit false

namespace Scrutiny.Text

def upperChar (c : Char) : List Char :=
  if c.toNat < 128 then [c.toUpper]
  else
    match upperExpansions.lookup c.toNat with
    | some ns => ns.map Char.ofNat
    | none => [Char.ofNat (moved upperRows c.toNat)]

def upper (t : List Char) : List Char := t.flatMap upperChar

/-- The one-letter lower case; the dotted capital I loses its dot. -/
def lowerChar (c : Char) : Char :=
  if c.toNat < 128 then c.toLower
  else if c.toNat = 0x130 then 'i'
  else Char.ofNat (moved lowerRows c.toNat)

def isCased (c : Char) : Bool := casedRanges.holds c

def isCaseIgnorable (c : Char) : Bool := caseIgnorableRanges.holds c

def leadsWithCased (t : List Char) : Bool :=
  match t.find? (fun c => !isCaseIgnorable c) with
  | some c => isCased c
  | none => false

/-- Lower case of a text whose characters before it, in reverse, are `before`. -/
def lowerFrom (before : List Char) : List Char → List Char
  | [] => []
  | c :: r =>
    let here :=
      if c.toNat = 0x3a3 then
        if leadsWithCased before && !leadsWithCased r then [Char.ofNat 0x3c2]
        else [Char.ofNat 0x3c3]
      else if c.toNat = 0x130 then ['i', Char.ofNat 0x307]
      else [lowerChar c]
    here ++ lowerFrom (c :: before) r

def lower (t : List Char) : List Char := lowerFrom [] t

/-- Letters that a letter matches besides itself when case is ignored, taken in lower case. -/
def sharedCase (c : Char) : List Char :=
  ((sharedCaseRows.lookup c.toNat).getD []).map Char.ofNat

end Scrutiny.Text
