import Scrutiny.Calendar.Moment

/-!
Dates and moments in the standard notation. A date is written as year, month and day with
hyphens. Read are also the forms without hyphens and those that count weeks; the notation has to
take seven, eight or ten bytes, and what is left over behind a complete date is ignored.
-/

set_option autoImplicit false

namespace Scrutiny.Calendar

open Text

def Date.iso (d : Date) : List Char :=
  padded 4 d.year ++ '-' :: padded 2 d.month ++ '-' :: padded 2 d.day

def fixedDigits? : Nat → Nat → List Char → Option (Nat × List Char)
  | 0, n, r => some (n, r)
  | k + 1, n, c :: r => if c.isDigit then fixedDigits? k (10 * n + (c.toNat - 48)) r else none
  | _ + 1, _, [] => none

def byteLength (t : List Char) : Nat := t.foldl (fun n c => n + c.utf8Size) 0

/-- Drops the hyphen that has to stand between parts if the notation uses hyphens. -/
def dropHyphen? (hyphens : Bool) (t : List Char) : Option (List Char) :=
  if hyphens then
    match t with
    | '-' :: r => some r
    | _ => none
  else some t

def monthForm? (hyphens : Bool) (y : Nat) (t : List Char) : Option Date := do
  let (m, t) ← fixedDigits? 2 0 t
  let t ← dropHyphen? hyphens t
  let (d, _) ← fixedDigits? 2 0 t
  Date.of? y m d

def weekForm? (hyphens : Bool) (y : Nat) (t : List Char) : Option Date := do
  let (w, t) ← fixedDigits? 2 0 t
  if t.isEmpty then Date.ofWeek? y w 1
  else
    let t ← dropHyphen? hyphens t
    let (d, _) ← fixedDigits? 1 0 t
    Date.ofWeek? y w d

def Date.read? (t : List Char) : Option Date :=
  if byteLength t = 7 ∨ byteLength t = 8 ∨ byteLength t = 10 then
    match fixedDigits? 4 0 t with
    | none => none
    | some (y, '-' :: 'W' :: r) => weekForm? true y r
    | some (y, '-' :: r) => monthForm? true y r
    | some (y, 'W' :: r) => weekForm? false y r
    | some (y, r) => monthForm? false y r
  else none

def offsetText (o : Int) : List Char :=
  let n := o.natAbs
  (if o < 0 then '-' else '+') :: padded 2 (n / 3600) ++ ':' :: padded 2 (n / 60 % 60) ++
    (if n % 60 = 0 then [] else ':' :: padded 2 (n % 60))

def Moment.timeText (m : Moment) : List Char :=
  padded 2 m.hour ++ ':' :: padded 2 m.minute ++ ':' :: padded 2 m.second ++
    (if m.microsecond = 0 then [] else '.' :: padded 6 m.microsecond)

def Moment.iso (between : Char) (m : Moment) : List Char :=
  m.date.iso ++ between :: m.timeText ++ (m.offset.map offsetText).getD []

def seconds? (t : List Char) : Option (Nat × Nat × List Char) :=
  match t with
  | ':' :: r =>
    match fixedDigits? 2 0 r with
    | some (s, '.' :: f) =>
      let digits := f.takeWhile Char.isDigit
      let six := (digits ++ List.replicate 6 '0').take 6
      (fixedDigits? 6 0 six).map fun u => (s, u.1, f.dropWhile Char.isDigit)
    | some (s, r) => some (s, 0, r)
    | none => none
  | _ => some (0, 0, t)

def offset? (t : List Char) : Option (Option Int) :=
  match t with
  | [] => some none
  | ['Z'] => some (some 0)
  | sign :: r => do
    let (h, r) ← fixedDigits? 2 0 r
    let (m, r) ← match r with
      | ':' :: r => fixedDigits? 2 0 r
      | _ => none
    let (s, _, _) ← seconds? r
    let n : Int := ((h * 60 + m) * 60 + s : Nat)
    if sign = '+' then some (some n) else if sign = '-' then some (some (-n)) else none

def Moment.read? (t : List Char) : Option Moment := do
  let date ← Date.read? (t.take 10)
  match t.drop 10 with
  | [] => some ⟨date, 0, 0, 0, 0, none⟩
  | _ :: r =>
    let (h, r) ← fixedDigits? 2 0 r
    let (m, r) ← match r with
      | ':' :: r => fixedDigits? 2 0 r
      | _ => none
    let (s, u, r) ← seconds? r
    let offset ← offset? r
    if h < 24 ∧ m < 60 ∧ s < 60 then some ⟨date, h, m, s, u, offset⟩ else none

end Scrutiny.Calendar
