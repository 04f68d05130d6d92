import Scrutiny.Pattern.Basic

/-!
Matching a pattern against a text. A run stands at a place in the text and knows what the groups
have captured; a pattern is tried together with what has to match after it, so that an earlier
choice is given up when the rest fails. A repetition that takes no characters is not repeated
again, which bounds every repetition by the length of the text that is left.
-/

set_option autoImplicit false

namespace Scrutiny.Pattern

open Text

/-- A place in a text: what was passed, in reverse, and what is left; and the captures. -/
structure Run where
  passed : List Char
  left : List Char
  place : Nat
  captures : List (Nat × List Char)

abbrev Next := Run → Option Run

def Run.advance (r : Run) : Run :=
  match r.left with
  | [] => r
  | c :: left => { r with passed := c :: r.passed, left := left, place := r.place + 1 }

def Run.take? (r : Run) (t : Char → Bool) : Option Run :=
  match r.left with
  | [] => none
  | c :: _ => if t c then some r.advance else none

def Run.retreat? : Nat → Run → Option Run
  | 0, r => some r
  | n + 1, r =>
    match r.passed with
    | [] => none
    | c :: passed => Run.retreat? n { r with passed := passed, left := c :: r.left, place := r.place - 1 }

def Run.takeText? (f : Fold) : List Char → Run → Option Run
  | [], r => some r
  | c :: t, r =>
    match r.take? (fun x => f.lower x.toNat == f.lower c.toNat) with
    | some r => Run.takeText? f t r
    | none => none

def Run.capture (start : Run) (n : Nat) (r : Run) : Run :=
  { r with captures := (n, (r.passed.take (r.place - start.place)).reverse) :: r.captures }

def wordAt (s : Script) (t : List Char) : Bool :=
  match t with
  | [] => false
  | c :: _ => CharKind.word.holds s c

def Border.holds (r : Run) : Border → Bool
  | .textStart => r.passed.isEmpty
  | .textEnd => r.left.isEmpty
  | .lineStart => r.passed.isEmpty || r.passed.head? == some '\n'
  | .lineEnd => r.left.isEmpty || r.left.head? == some '\n'
  | .lastLineEnd => r.left.isEmpty || r.left == ['\n']
  | .wordEdge s =>
    !(r.passed.isEmpty && r.left.isEmpty) && wordAt s r.passed != wordAt s r.left
  | .noWordEdge s =>
    !(r.passed.isEmpty && r.left.isEmpty) && wordAt s r.passed == wordAt s r.left

def exactly (body : Next → Next) : Nat → Next → Next
  | 0, k => k
  | n + 1, k => body (exactly body n k)

/-- Whether one more repetition may be tried: the limit is not reached and the last one moved. -/
def mayRepeat (most : Option Nat) (last : Option Nat) (r : Run) : Bool :=
  most != some 0 && last != some r.place

def mostFirst (body : Next → Next) (k : Next) : Nat → Option Nat → Option Nat → Next
  | 0, _, _ => k
  | fuel + 1, most, last => fun r =>
    if mayRepeat most last r then
      match body (mostFirst body k fuel (most.map (· - 1)) (some r.place)) r with
      | some e => some e
      | none => k r
    else k r

def fewestFirst (body : Next → Next) (k : Next) : Nat → Option Nat → Option Nat → Next
  | 0, _, _ => k
  | fuel + 1, most, last => fun r =>
    match k r with
    | some e => some e
    | none =>
      if mayRepeat most last r then
        body (fewestFirst body k fuel (most.map (· - 1)) (some r.place)) r
      else none

/-- Repeats as often as possible, each repetition settled before the next. -/
def settled (body : Next → Next) : Nat → Option Nat → Option Nat → Run → Run
  | 0, _, _, r => r
  | fuel + 1, most, last, r =>
    if mayRepeat most last r then
      match body some r with
      | some r' => settled body fuel (most.map (· - 1)) (some r.place) r'
      | none => r
    else r

def settledExactly (body : Next → Next) : Nat → Run → Option Run
  | 0, r => some r
  | n + 1, r =>
    match body some r with
    | some r' => settledExactly body n r'
    | none => none

def repeated (body : Next → Next) (g : Greed) (least : Nat) (most : Option Nat) (k : Next) : Next :=
  let rest := most.map (· - least)
  match g with
  | .most => exactly body least fun r => mostFirst body k (r.left.length + 2) rest none r
  | .fewest => exactly body least fun r => fewestFirst body k (r.left.length + 2) rest none r
  | .allAtOnce => fun r =>
    match settledExactly body least r with
    | some r => k (settled body (r.left.length + 2) rest none r)
    | none => none

/-- Tries a pattern and then what follows it. -/
def run : Pattern → Next → Next
  | .empty, k => k
  | .char t s f, k => fun r => (r.take? fun c => t.holds s f c).bind k
  | .border b, k => fun r => if b.holds r then k r else none
  | .seq p q, k => run p (run q k)
  | .alt p q, k => fun r =>
    match run p k r with
    | some e => some e
    | none => run q k r
  | .group n p, k => fun r => run p (fun e => k (r.capture n e)) r
  | .times g least most p, k => repeated (run p) g least most k
  | .back n f _, k => fun r => (r.captures.lookup n).bind fun t => (r.takeText? f t).bind k
  | .ahead negated p, k => fun r =>
    match run p some r with
    | some e => if negated then none else k { r with captures := e.captures }
    | none => if negated then k r else none
  | .behind negated length p, k => fun r =>
    match (r.retreat? length).bind (run p some) with
    | some e => if negated then none else k { r with captures := e.captures }
    | none => if negated then k r else none
  | .once p, k => fun r => (run p some r).bind k
  | .ifGroup n p q, k => fun r =>
    if (r.captures.lookup n).isSome then run p k r else run q k r

def accepts (p : Pattern) (t : List Char) : Bool :=
  (p.run (fun r => if r.left.isEmpty then some r else none) ⟨[], t, 0, []⟩).isSome

end Scrutiny.Pattern
