import Scrutiny.Pattern.Notation
import Scrutiny.Rule.Verdict
import Scrutiny.Text.LetterCase
import Scrutiny.Text.Pieces
import Scrutiny.Value.Order

/-!
Rules on the text of a value: flags and tokens compared without regard to case, patterns that
the whole text has to match, phone numbers, and lengths of texts and lists. An absent value
passes.
-/

set_option autoImplicit false

namespace Scrutiny

open Text

inductive Wording where
  /-- The flag given by the caller reads as true or false. -/
  | flag (value : Value)
  /-- One of the tokens of a text, which a separator stands between. -/
  | token (tokens : String) (separator : Value)
  /-- One of a list of tokens that are joined and cut again at a separator. -/
  | listedToken (separator : String) (tokens : Value)
  | matching (expression : String) (message : Option String)
  | phoneNumber
  | lengthAtMost (limit : Value)
  | listLengthAtMost (limit : Value)

namespace Wording

/-- The tokens of a text; without a separator they are its words. -/
def tokensOf (t : List Char) (separator : Value) : Except Fault (List (List Char)) :=
  match separator with
  | .null => .ok (words t)
  | .text s => if s.isEmpty then .error .wrongValue else .ok (pieces s.toList t)
  | _ => .error .wrongKind

def isToken (tokens : List (List Char)) (t : List Char) : Bool :=
  (tokens.map lower).contains (lower (trim t))

def judgeToken (f : Focus) (t : List Char) (separator : Value) : Verdict :=
  f.judgePresent fun v => do
    let tokens ← tokensOf t separator
    if isToken tokens (← v.wording) then Verdict.pass
    else f.report "value.should.true.or.false" "value should true or false " v [v]

def textOf : Value → Except Fault (List Char)
  | .text s => .ok s.toList
  | _ => .error .wrongKind

def textsOf (v : Value) : Except Fault (List (List Char)) :=
  match v.members? with
  | some items => items.mapM textOf
  | none => .error .wrongKind

def isPhoneChar (c : Char) : Bool := ('0' ≤ c && c ≤ '9') || ". ()-".toList.contains c

/-- At most 25 digits, spaces, dots, parentheses and hyphens, with or without a plus in front. -/
def isPhoneNumber (t : List Char) : Bool :=
  let body := match t with
    | '+' :: r => r
    | t => t
  body.all isPhoneChar && body.length ≤ 25

/-- A pattern that says the same. -/
def phonePattern : String := "^\\+?[0-9. ()-]\x7b0,25\x7d$"

def mismatchMessage (f : Focus) (expression : String) (message : Option String) : String :=
  match message with
  | some m => if m.isEmpty then default else m
  | none => default
where
  default : String := aboutParameter (nameText f.field)
    ("must match the provided regular expression [ " ++ expression ++ " ] .")

def judge (f : Focus) : Wording → Verdict
  | .flag value => do
    if value.isNull then Verdict.pass
    else
      let t := lower (← value.wording)
      if t = "true".toList ∨ t = "false".toList then Verdict.pass
      else f.report "must.be.true.or.false" "must be set as true or false." value []
  | .token tokens separator => judgeToken f tokens.toList separator
  | .listedToken separator tokens => do
    judgeToken f (glue separator.toList (← textsOf tokens)) (.text separator)
  | .matching expression message => f.judgePresent fun v => do
    let t ← v.wording
    if (← Pattern.read expression.toList).accepts t then Verdict.pass
    else
      Verdict.violated (violation (f.fieldCode "does.not.match.regexp")
        (.text (mismatchMessage f expression message)) f.field v [v, .text expression])
  | .phoneNumber => f.judgePresent fun v => do
    if isPhoneNumber (← v.wording) then Verdict.pass
    else
      f.report "format.is.invalid"
        "is in invalid format, should contain '-','+','()' and numbers only." v [v]
  | .lengthAtMost limit => f.judgePresent fun v => do
    let t ← v.wording
    if ← (Value.int (trim t).length).atMost limit then Verdict.pass
    else
      f.report "exceeds.max.length" ((← endingIn "exceeds max length of " limit) ++ ".") v
        [limit, .text (String.ofList t)]
  | .listLengthAtMost limit => do
    match f.value.listItems? with
    | none => Verdict.pass
    | some items =>
      if ← (Value.int items.length).atMost limit then Verdict.pass
      else
        f.report "exceeds.max.length.allowed"
          ((← endingIn "exceeds allowed max length of " limit) ++ ".") .null [limit]

end Wording
end Scrutiny
