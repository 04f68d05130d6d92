import Scrutiny.Text.Pieces
import Scrutiny.Text.Integer

/-!
Tokens of loosely written dates, which hold no blanks: words, numbers and single signs. A point
may belong to a number or to a word; whether it does is only known at the end of the token, when
a token with too many points is cut at them.
-/

set_option autoImplicit false

namespace Scrutiny.Calendar.Loose

open Text

abbrev Token := List Char

inductive Shape where
  | word
  | dottedWord
  | number
  | dottedNumber
  deriving DecidableEq

/-- A token that is being read: its characters in reverse, and whether letters were followed by
something. -/
structure Held where
  shape : Shape
  text : List Char
  letters : Bool

def isLetter (c : Char) : Bool := c.isAlpha || (128 ≤ c.toNat && !isDigit c)

def isMark (c : Char) : Bool := c = '.' || c = ','

namespace Held

def endsIn (h : Held) (c : Char) : Bool := h.text.head? == some c

def extend? (h : Held) (c : Char) : Option Held :=
  let longer := c :: h.text
  match h.shape with
  | .word =>
    if isLetter c then some ⟨.word, longer, true⟩
    else if c = '.' then some ⟨.dottedWord, longer, true⟩
    else none
  | .number =>
    if isDigit c then some ⟨.number, longer, h.letters⟩
    else if c = '.' || (c = ',' && 2 ≤ h.text.length) then some ⟨.dottedNumber, longer, h.letters⟩
    else none
  | .dottedWord =>
    if c = '.' || isLetter c then some ⟨.dottedWord, longer, true⟩
    else if isDigit c && h.endsIn '.' then some ⟨.dottedNumber, longer, true⟩
    else none
  | .dottedNumber =>
    if c = '.' || isDigit c then some ⟨.dottedNumber, longer, h.letters⟩
    else if isLetter c && h.endsIn '.' then some ⟨.dottedWord, longer, h.letters⟩
    else none

def isDotted (h : Held) : Bool := h.shape = .dottedWord || h.shape = .dottedNumber

/-- Whether the marks in a token stand for themselves; `cut` says that more text follows. -/
def isCut (h : Held) (cut : Bool) : Bool :=
  h.isDotted && (h.letters || (cut && h.shape = .dottedWord) || 1 < h.text.count '.' ||
    h.text.head?.any isMark)

def atMarks : List Char → List Token
  | [] => [[]]
  | c :: r =>
    if isMark c then [] :: [c] :: atMarks r
    else
      match atMarks r with
      | [] => [[c]]
      | p :: ps => (c :: p) :: ps

def tokens (h : Held) (cut : Bool) : List Token :=
  let t := h.text.reverse
  if h.isCut cut then (atMarks t).filter fun p => !p.isEmpty
  else if h.shape = .dottedNumber && !t.contains '.' then
    [t.map fun c => if c = ',' then '.' else c]
  else [t]

end Held

def begin (c : Char) : Held ⊕ Token :=
  if isLetter c then .inl ⟨.word, [c], false⟩
  else if isDigit c then .inl ⟨.number, [c], false⟩
  else .inr [c]

def tokensFrom : Option Held → List Char → List Token
  | none, [] => []
  | some h, [] => h.tokens false
  | none, c :: r =>
    match begin c with
    | .inl h => tokensFrom (some h) r
    | .inr t => t :: tokensFrom none r
  | some h, c :: r =>
    match h.extend? c with
    | some h' => tokensFrom (some h') r
    | none =>
      h.tokens true ++
        match begin c with
        | .inl h' => tokensFrom (some h') r
        | .inr t => t :: tokensFrom none r

def tokens (t : List Char) : List Token := tokensFrom none (t.filter fun c => c.toNat ≠ 0)

end Scrutiny.Calendar.Loose
