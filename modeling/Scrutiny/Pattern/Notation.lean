import Scrutiny.Pattern.Matching
import Scrutiny.Fault

/-!
Reading the notation of patterns. The text is first cut into tokens, a backslash taking the next
character with it. Alternatives are sequences of items; an item may be followed by a repetition.
What stands in a group's opening decides whether it captures, looks around, settles its match,
chooses by another group or changes how letters, newlines and blanks are taken. A pattern whose
notation is broken is refused as a whole.
-/

set_option autoImplicit false

namespace Scrutiny.Pattern

open Text

inductive Token where
  | plain (c : Char)
  | escaped (c : Char)
  deriving DecidableEq

def Token.chars : Token → List Char
  | .plain c => [c]
  | .escaped c => ['\\', c]

def tokens? : List Char → Option (List Token)
  | [] => some []
  | ['\\'] => none
  | '\\' :: c :: r => (tokens? r).map (.escaped c :: ·)
  | c :: r => (tokens? r).map (.plain c :: ·)

structure Flags where
  ignoreCase : Bool := false
  manyLines : Bool := false
  anyNewline : Bool := false
  spaced : Bool := false
  ascii : Bool := false
  everyScript : Bool := false
  /-- Only for a whole pattern, which then may hold no repetition. -/
  noRepetition : Bool := false

def Flags.fold (f : Flags) : Fold :=
  if f.ignoreCase then (if f.ascii then .ascii else .full) else .exact

def Flags.script (f : Flags) : Script := if f.ascii then .ascii else .every

/-- What has been read: the tokens left, the widths of the groups that are closed (counted from
zero, which no group has), the names of groups, the count of groups when the outermost look
behind was opened, the groups that have to exist in the end, and the flags of the whole. -/
structure Reader where
  tokens : List Token
  groups : List (Option Width) := [none]
  names : List (String × Nat) := []
  behindFrom : Option Nat := none
  expected : List Nat := []
  flags : Flags := {}

abbrev Read := StateT Reader (Except Fault)

def broken {α : Type} : Read α := throw .malformedPattern

def peek : Read (Option Token) := do return (← get).tokens.head?

def skip : Read Unit := modify fun r => { r with tokens := r.tokens.drop 1 }

def nextToken : Read Token := do
  match ← peek with
  | some t => skip; return t
  | none => broken

def accept (c : Char) : Read Bool := do
  if (← peek) = some (.plain c) then skip; return true
  else return false

def expect (c : Char) : Read Unit := do
  if ← accept c then return () else broken

def takeUpTo (test : Char → Bool) : Nat → Read (List Char)
  | 0 => return []
  | n + 1 => do
    match ← peek with
    | some (.plain c) =>
      if test c then
        skip
        return c :: (← takeUpTo test n)
      else return []
    | _ => return []

def takeDigits : Read (List Char) := do takeUpTo Char.isDigit (← get).tokens.length

def takeName (close : Char) : Read (List Char) := do
  let ts := (← get).tokens
  let name := ts.takeWhile (· != .plain close)
  if name.isEmpty || name.length = ts.length then broken
  else
    modify fun r => { r with tokens := ts.drop (name.length + 1) }
    return name.flatMap Token.chars

def isHex (c : Char) : Bool := c.isDigit || ('a' ≤ c && c ≤ 'f') || ('A' ≤ c && c ≤ 'F')

def isOctal (c : Char) : Bool := '0' ≤ c && c ≤ '7'

def hexValue (c : Char) : Nat :=
  if c.isDigit then c.toNat - 48 else c.toLower.toNat - 87

def inBase (b : Nat) (ds : List Char) : Nat := ds.foldl (fun n c => b * n + hexValue c) 0

def hexCode (n : Nat) : Read Nat := do
  let ds ← takeUpTo isHex n
  if ds.length = n then return inBase 16 ds else broken

def controlCode? (c : Char) : Option Nat :=
  match c with
  | 'a' => some 7
  | 'b' => some 8
  | 'f' => some 12
  | 'n' => some 10
  | 'r' => some 13
  | 't' => some 9
  | 'v' => some 11
  | '\\' => some 92
  | _ => none

def kindOf? (c : Char) : Option SetItem :=
  match c with
  | 'd' => some (.kind .digit false)
  | 'D' => some (.kind .digit true)
  | 's' => some (.kind .blank false)
  | 'S' => some (.kind .blank true)
  | 'w' => some (.kind .word false)
  | 'W' => some (.kind .word true)
  | _ => none

def borderOf? (s : Script) (c : Char) : Option Border :=
  match c with
  | 'A' => some .textStart
  | 'Z' => some .textEnd
  | 'b' => some (.wordEdge s)
  | 'B' => some (.noWordEdge s)
  | _ => none

def codeEscape (c : Char) : Read Nat :=
  match c with
  | 'x' => hexCode 2
  | 'u' => hexCode 4
  | 'U' => do
    let n ← hexCode 8
    if n ≤ 0x10ffff then return n else broken
  | _ => if c.isAlpha then broken else return c.toNat

def setEscape (c : Char) : Read SetItem := do
  match controlCode? c, kindOf? c with
  | some n, _ => return .code n
  | _, some k => return k
  | _, _ =>
    if isOctal c then
      let n := inBase 8 (c :: (← takeUpTo isOctal 2))
      if n ≤ 0o377 then return .code n else broken
    else if c.isDigit then broken
    else return .code (← codeEscape c)

def isClosed (n : Nat) : Read Bool := do return ((← get).groups.getD n none).isSome

/-- Within a look behind, a group that is used has to be closed before the look behind. -/
def checkBehind (n : Nat) : Read Unit := do
  match (← get).behindFrom with
  | none => return ()
  | some m => if (← isClosed n) && n < m then return () else broken

def backReference (f : Flags) (n : Nat) : Read Pattern := do
  match (← get).groups.getD n none with
  | some w =>
    checkBehind n
    return .back n f.fold w
  | none => broken

def codePattern (f : Flags) (n : Nat) : Pattern := .char (.code n) f.script f.fold

structure Item where
  pattern : Pattern
  repeatable : Bool := true

def numberEscape (f : Flags) (c : Char) : Read Pattern := do
  if c = '0' then
    return codePattern f (inBase 8 (← takeUpTo isOctal 2))
  else
    match ← takeUpTo Char.isDigit 1 with
    | [d] =>
      if isOctal c && isOctal d then
        match ← takeUpTo isOctal 1 with
        | [e] =>
          let n := inBase 8 [c, d, e]
          if n ≤ 0o377 then return codePattern f n else broken
        | _ => backReference f (inBase 10 [c, d])
      else backReference f (inBase 10 [c, d])
    | _ => backReference f (inBase 10 [c])

def escape (f : Flags) (c : Char) : Read Item := do
  match borderOf? f.script c, kindOf? c, controlCode? c with
  | some b, _, _ => return ⟨.border b, false⟩
  | _, some k, _ => return ⟨.char (.set [k] false) f.script f.fold, true⟩
  | _, _, some n => return ⟨codePattern f n, true⟩
  | _, _, _ =>
    if c.isDigit then return ⟨← numberEscape f c, true⟩
    else return ⟨codePattern f (← codeEscape c), true⟩

def setMember : Token → Read SetItem
  | .escaped c => setEscape c
  | .plain c => return .code c.toNat

/-- Reads set members up to the closing bracket; a bracket that comes first is a member. -/
def setItems : Nat → List SetItem → Read (List SetItem)
  | 0, _ => broken
  | fuel + 1, done => do
    let t ← nextToken
    if t = .plain ']' ∧ done ≠ [] then return done
    else
      let low ← setMember t
      if ← accept '-' then
        let u ← nextToken
        if u = .plain ']' then return .code 45 :: low :: done
        else
          match low, ← setMember u with
          | .code a, .code b =>
            if b < a then broken else setItems fuel (.range a b :: done)
          | _, _ => broken
      else setItems fuel (low :: done)

def charSet (f : Flags) : Read Item := do
  let negated ← accept '^'
  let items ← setItems ((← get).tokens.length + 1) []
  return ⟨.char (.set items negated) f.script f.fold, true⟩

def repetitionLimit : Nat := 4294967294

def countOf (digits : List Char) : Read Nat :=
  if digitLimit < digits.length then throw .wrongValue
  else if repetitionLimit < inBase 10 digits then throw .beyondMachine
  else return inBase 10 digits

/-- A pair of bounds in braces; none if the braces stand for themselves. -/
def bounds : Read (Option (Nat × Option Nat)) := do
  let start ← get
  if (← peek) = some (.plain '}') then return none
  let low ← takeDigits
  let ranged ← accept ','
  let high ← if ranged then takeDigits else pure low
  if ← accept '}' then
    let least ← countOf low
    let most ← countOf high
    if high.isEmpty then return some (least, none)
    else if most < least then broken
    else return some (least, some most)
  else
    set start
    return none

def quantifier (c : Char) : Read (Option (Nat × Option Nat)) :=
  match c with
  | '*' => return some (0, none)
  | '+' => return some (1, none)
  | '?' => return some (0, some 1)
  | _ => bounds

def greed : Read Greed := do
  if ← accept '?' then return .fewest
  else if ← accept '+' then return .allAtOnce
  else return .most

def repetition (f : Flags) (c : Char) (done : List Item) : Read (List Item) := do
  match ← quantifier c with
  | none => return ⟨codePattern f c.toNat, true⟩ :: done
  | some (least, most) =>
    match done with
    | ⟨p, true⟩ :: rest => return ⟨.times (← greed) least most p, false⟩ :: rest
    | _ => broken

def joined : List Item → Pattern
  | [] => .empty
  | i :: is => is.foldl (fun p j => .seq j.pattern p) i.pattern

def isNameStart (c : Char) : Bool := isWord c && !isDigit c

def isName : List Char → Bool
  | [] => false
  | c :: r => isNameStart c && r.all isWord

def groupNamed (name : List Char) : Read Nat := do
  if !isName name then broken
  else
    match (← get).names.lookup (String.ofList name) with
    | some n => return n
    | none => broken

def openGroup (name : Option (List Char)) : Read Nat := do
  let r ← get
  let n := r.groups.length
  match name with
  | none => set { r with groups := r.groups ++ [none] }
  | some t =>
    if !isName t || (r.names.lookup (String.ofList t)).isSome then broken
    else
      set { r with groups := r.groups ++ [none], names := (String.ofList t, n) :: r.names }
  return n

def closeGroup (n : Nat) (p : Pattern) : Read Unit :=
  modify fun r => { r with groups := r.groups.set n (some p.width) }

def choiceGroup (t : List Char) : Read Nat := do
  if isName t then groupNamed t
  else
    match readInteger? t with
    | some (.ofNat (n + 1)) =>
      modify fun r => { r with expected := (n + 1) :: r.expected }
      return n + 1
    | _ => broken

def withFlag (f : Flags) (c : Char) (value : Bool) : Flags :=
  match c with
  | 'i' => { f with ignoreCase := value }
  | 'm' => { f with manyLines := value }
  | 's' => { f with anyNewline := value }
  | 'x' => { f with spaced := value }
  | 'a' => { f with ascii := value }
  | 'u' => { f with everyScript := value }
  | 't' => { f with noRepetition := value }
  | _ => f

def isFlag (c : Char) : Bool := "imsxaut".toList.contains c

def isScriptFlag (c : Char) : Bool := c = 'a' || c = 'u'

def isWholeFlag (c : Char) : Bool := isScriptFlag c || c = 't'

def flagRun : Nat → List Char → Read (List Char × Char)
  | 0, _ => broken
  | fuel + 1, done => do
    match ← nextToken with
    | .plain c =>
      if isFlag c then flagRun fuel (c :: done)
      else if c = ')' || c = '-' || c = ':' then return (done, c)
      else broken
    | .escaped _ => broken

inductive FlagGroup where
  | whole (on : List Char)
  | group (on off : List Char)

def flagGroup (c : Char) : Read FlagGroup := do
  let fuel := (← get).tokens.length + 1
  let (on, close) ← if c = '-' then pure ([], '-') else flagRun fuel [c]
  if on.contains 'a' && on.contains 'u' then broken
  else if close = ')' then return .whole on
  else if on.contains 't' then broken
  else if close = ':' then return .group on []
  else
    let (off, close) ← flagRun fuel []
    if off.isEmpty || close != ':' || off.any isWholeFlag || off.any on.contains then broken
    else return .group on off

def Flags.scoped (f : Flags) (on off : List Char) : Flags :=
  let f := if on.any isScriptFlag then { f with ascii := false, everyScript := false } else f
  let f := on.foldl (fun f c => withFlag f c true) f
  off.foldl (fun f c => withFlag f c false) f

def flagsIn (scope : Option Flags) : Read Flags := do
  match scope with
  | some f => return f
  | none => return (← get).flags

def lineStartOf (f : Flags) : Border := if f.manyLines then .lineStart else .textStart

def lineEndOf (f : Flags) : Border := if f.manyLines then .lineEnd else .lastLineEnd

def skipLine : Read Unit :=
  modify fun r => { r with tokens := (r.tokens.dropWhile (· != .plain '\n')).drop 1 }

def skipComment : Read Unit := do
  let rest := (← get).tokens.dropWhile (· != .plain ')')
  if rest.isEmpty then broken else modify fun r => { r with tokens := rest.drop 1 }

/-- Makes a look around of a pattern; one that looks behind has to have a fixed width. -/
def lookAround (backward negated : Bool) (p : Pattern) : Read Pattern :=
  if backward then
    if p.width.most = some p.width.least then return .behind negated p.width.least p
    else broken
  else return .ahead negated p

mutual

def alternatives : Nat → Option Flags → Bool → Read Pattern
  | 0, _, _ => broken
  | fuel + 1, scope, first => do
    let p ← sequence fuel scope first []
    if ← accept '|' then return .alt p (← alternatives fuel scope false) else return p

def sequence : Nat → Option Flags → Bool → List Item → Read Pattern
  | 0, _, _, _ => broken
  | fuel + 1, scope, first, done => do
    match ← peek with
    | none => return joined done
    | some (.plain '|') => return joined done
    | some (.plain ')') => return joined done
    | some t =>
      skip
      let f ← flagsIn scope
      match t with
      | .escaped c =>
        let i ← escape f c
        sequence fuel scope first (i :: done)
      | .plain c =>
        if f.spaced && isAsciiBlank c then sequence fuel scope first done
        else if f.spaced && c = '#' then
          skipLine
          sequence fuel scope first done
        else if c = '[' then
          let i ← charSet f
          sequence fuel scope first (i :: done)
        else if c = '*' || c = '+' || c = '?' || c = '{' then
          let done ← repetition f c done
          sequence fuel scope first done
        else if c = '.' then
          sequence fuel scope first (⟨.char (.any f.anyNewline) f.script f.fold, true⟩ :: done)
        else if c = '^' then
          sequence fuel scope first (⟨.border (lineStartOf f), false⟩ :: done)
        else if c = '$' then
          sequence fuel scope first (⟨.border (lineEndOf f), false⟩ :: done)
        else if c = '(' then
          match ← parenthesis fuel scope (first && done.isEmpty) with
          | some p => sequence fuel scope first (⟨p, true⟩ :: done)
          | none => sequence fuel scope first done
        else sequence fuel scope first (⟨codePattern f c.toNat, true⟩ :: done)

/-- What an opening parenthesis starts; nothing for comments and flags of the whole. -/
def parenthesis : Nat → Option Flags → Bool → Read (Option Pattern)
  | 0, _, _ => broken
  | fuel + 1, scope, atStart => do
    if ← accept '?' then
      match ← nextToken with
      | .escaped _ => broken
      | .plain 'P' =>
        if ← accept '<' then
          let name ← takeName '>'
          return some (← capturing fuel scope (some name))
        else if ← accept '=' then
          let n ← groupNamed (← takeName ')')
          return some (← backReference (← flagsIn scope) n)
        else broken
      | .plain '#' => skipComment; return none
      | .plain ':' =>
        let p ← alternatives fuel (some (← flagsIn scope)) false
        expect ')'
        return some p
      | .plain '>' =>
        let p ← alternatives fuel (some (← flagsIn scope)) false
        expect ')'
        return some (.once p)
      | .plain '=' => return some (← looking fuel scope false false)
      | .plain '!' => return some (← looking fuel scope false true)
      | .plain '<' =>
        if ← accept '=' then return some (← looking fuel scope true false)
        else if ← accept '!' then return some (← looking fuel scope true true)
        else broken
      | .plain '(' =>
        let n ← choiceGroup (← takeName ')')
        checkBehind n
        let inner := some (← flagsIn scope)
        let yes ← sequence fuel inner false []
        let no ← if ← accept '|' then sequence fuel inner false [] else pure .empty
        expect ')'
        return some (.ifGroup n yes no)
      | .plain c =>
        if isFlag c || c = '-' then
          match ← flagGroup c with
          | .whole on =>
            if atStart then
              modify fun r => { r with flags := on.foldl (fun f c => withFlag f c true) r.flags }
              return none
            else broken
          | .group on off =>
            let f ← flagsIn scope
            let p ← alternatives fuel (some (f.scoped on off)) false
            expect ')'
            return some p
        else broken
    else return some (← capturing fuel scope none)

def capturing : Nat → Option Flags → Option (List Char) → Read Pattern
  | 0, _, _ => broken
  | fuel + 1, scope, name => do
    let n ← openGroup name
    let p ← alternatives fuel (some (← flagsIn scope)) false
    expect ')'
    closeGroup n p
    return .group n p

def looking : Nat → Option Flags → Bool → Bool → Read Pattern
  | 0, _, _, _ => broken
  | fuel + 1, scope, backward, negated => do
    let outer := (← get).behindFrom
    if backward && outer.isNone then
      modify fun r => { r with behindFrom := some r.groups.length }
    let p ← alternatives fuel (some (← flagsIn scope)) false
    modify fun r => { r with behindFrom := outer }
    expect ')'
    lookAround backward negated p

end

/-- Enough steps for every item and every nesting of a notation. -/
def readingFuel (ts : List Token) : Nat := 4 * ts.length + 8

def wholePattern : Read Pattern := do
  let p ← alternatives (readingFuel (← get).tokens) none true
  let r ← get
  if r.tokens.isEmpty && r.expected.all (· < r.groups.length) then
    if r.flags.ascii && r.flags.everyScript then throw .wrongValue
    else if r.flags.noRepetition && p.repeats then broken
    else return p
  else broken

/-- Reads a pattern from its notation. -/
def read (t : List Char) : Except Fault Pattern :=
  match tokens? t with
  | some ts => (wholePattern.run { tokens := ts }).map Prod.fst
  | none => .error .malformedPattern

end Scrutiny.Pattern
