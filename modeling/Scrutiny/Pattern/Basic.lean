import Scrutiny.Pattern.CharTest

/-!
Patterns over text, after their notation has been read. Alternatives and repetitions are ordered:
the first way to match that lets the rest match is taken. The width of a pattern is the least and,
if there is one, the greatest number of characters that it can take.
-/

set_option autoImplicit false

namespace Scrutiny

namespace Pattern

inductive Border where
  | textStart
  | textEnd
  | lineStart
  | lineEnd
  /-- The end of the text or the place before a newline that ends it. -/
  | lastLineEnd
  | wordEdge (s : Script)
  | noWordEdge (s : Script)

/-- How many repetitions are tried first, and whether fewer or more are tried after. -/
inductive Greed where
  | most
  | fewest
  /-- As many as possible, once and for all. -/
  | allAtOnce

structure Width where
  least : Nat
  most : Option Nat
  deriving DecidableEq

def Width.none : Width := ⟨0, some 0⟩

def Width.one : Width := ⟨1, some 1⟩

def Width.add (a b : Width) : Width :=
  ⟨a.least + b.least, match a.most, b.most with
    | some x, some y => some (x + y)
    | _, _ => .none⟩

def Width.join (a b : Width) : Width :=
  ⟨min a.least b.least, match a.most, b.most with
    | some x, some y => some (max x y)
    | _, _ => .none⟩

def Width.times (a : Width) (least : Nat) (most : Option Nat) : Width :=
  ⟨a.least * least, match a.most, most with
    | some x, some y => some (x * y)
    | some 0, .none => some 0
    | _, _ => .none⟩

end Pattern

open Pattern

inductive Pattern where
  | empty
  | char (t : CharTest) (s : Script) (f : Fold)
  | border (b : Border)
  | seq (p q : Pattern)
  | alt (p q : Pattern)
  | group (n : Nat) (p : Pattern)
  | times (g : Greed) (least : Nat) (most : Option Nat) (p : Pattern)
  | back (n : Nat) (f : Fold) (w : Width)
  | ahead (negated : Bool) (p : Pattern)
  | behind (negated : Bool) (length : Nat) (p : Pattern)
  | once (p : Pattern)
  | ifGroup (n : Nat) (yes no : Pattern)

namespace Pattern

def width : Pattern → Width
  | .empty => .none
  | .char .. => .one
  | .border _ => .none
  | .seq p q => p.width.add q.width
  | .alt p q => p.width.join q.width
  | .group _ p => p.width
  | .times _ least most p => p.width.times least most
  | .back _ _ w => w
  | .ahead .. => .none
  | .behind .. => .none
  | .once p => p.width
  | .ifGroup _ p q => p.width.join q.width

def repeats : Pattern → Bool
  | .empty => false
  | .char .. => false
  | .border _ => false
  | .seq p q => p.repeats || q.repeats
  | .alt p q => p.repeats || q.repeats
  | .group _ p => p.repeats
  | .times .. => true
  | .back .. => false
  | .ahead _ p => p.repeats
  | .behind _ _ p => p.repeats
  | .once p => p.repeats
  | .ifGroup _ p q => p.repeats || q.repeats

end Pattern
end Scrutiny
