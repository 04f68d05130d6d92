import Scrutiny.Recurrence.Parts
import Scrutiny.Recurrence.Rule

/-!
The lines of a recurrence text. Blanks separate lines. A line is a property with parameters and a
value, or else a rule; besides rules there are rules and dates that are added or left out, and
the start. Rules are read last, since the start is one for all of them.
-/

set_option autoImplicit false

namespace Scrutiny.Recurrence

open Text Calendar

structure Line where
  name : List Char
  parameters : List (List Char)
  value : List Char

def Line.of (t : List Char) : Line :=
  match cutOnce ':' t with
  | (rule, none) => ⟨"RRULE".toList, [], rule⟩
  | (front, some value) =>
    match cutAt ';' front with
    | [] => ⟨[], [], value⟩
    | name :: parameters => ⟨name, parameters, value⟩

def zoneMark : List Char := "TZID=".toList

/-- The zones that a text names, each up to a colon; `skip` characters are passed over. -/
def zonesFrom : Nat → List Char → List (List Char)
  | _, [] => []
  | skip + 1, _ :: r => zonesFrom skip r
  | 0, c :: r =>
    if zoneMark.isPrefixOf (c :: r) then
      let rest := (c :: r).drop zoneMark.length
      let name := rest.takeWhile (· ≠ ':')
      if name.isEmpty || name.length = rest.length then zonesFrom 0 r
      else name :: zonesFrom (zoneMark.length + name.length) r
    else zonesFrom 0 r

def zoneAreas : List String := [
  "Africa", "America", "Antarctica", "Arctic", "Asia", "Atlantic", "Australia", "Brazil",
  "Canada", "Chile", "Etc", "Europe", "Indian", "Mexico", "Pacific", "US"]

def zonesWithoutArea : List String := [
  "CET", "CST6CDT", "Cuba", "EET", "EST", "EST5EDT", "Egypt", "Eire", "GB", "GMT", "Greenwich",
  "HST", "Hongkong", "Iceland", "Iran", "Israel", "Jamaica", "Japan", "Kwajalein", "Libya", "MET",
  "MST", "MST7MDT", "NZ", "Navajo", "PRC", "PST8PDT", "Poland", "Portugal", "ROC", "ROK",
  "Singapore", "Turkey", "UCT", "UTC", "Universal", "W-SU", "WET", "Zulu"]

def isZone (t : List Char) : Bool :=
  match cutOnce '/' t with
  | (area, some place) => zoneAreas.contains (String.ofList area) && !place.isEmpty
  | (name, none) => zonesWithoutArea.contains (String.ofList name)

/-- The parameters of dates: whether a known zone is named. A kind of value may be named once. -/
def zoneGiven (zones : List (List Char)) (kindSeen given : Bool) :
    List (List Char) → Except Flaw Bool
  | [] => .ok given
  | p :: ps =>
    if zoneMark.isPrefixOf p then
      match zones.find? fun z => upper z = p.drop zoneMark.length with
      | some z => zoneGiven zones kindSeen (isZone z) ps
      | none => zoneGiven zones kindSeen given ps
    else if p = "VALUE=DATE-TIME".toList ∨ p = "VALUE=DATE".toList then
      if kindSeen then .error (.repeatedKind p) else zoneGiven zones true given ps
    else .error (.unsupportedParameter "" p)

def readDate (t : List Char) : Except Flaw Moment :=
  match Loose.read openParts t with
  | .ok m => .ok m
  | .error p => .error (.noDate t p)

def readZonedDate (given : Bool) (t : List Char) : Except Flaw Moment := do
  let m ← readDate t
  if !given then return m
  else if m.isAware then throw .manyZones
  else return { m with offset := some 0 }

def readDates (zones : List (List Char)) (l : Line) : Except Flaw (List Moment) := do
  let given ← zoneGiven zones false false l.parameters
  (cutAt ',' l.value).mapM (readZonedDate given)

structure Content where
  rules : List (List Char) := []
  dates : List (List Char) := []
  exceptions : List (List Char) := []
  start : Option Moment := none

def onlyParameter (property : String) (allowed : List (List Char)) :
    List (List Char) → Except Flaw Unit
  | [] => .ok ()
  | p :: ps =>
    if allowed.contains p then onlyParameter property allowed ps
    else .error (.unsupportedParameter (property ++ " ") p)

def Content.put (zones : List (List Char)) (c : Content) (t : List Char) :
    Except Flaw Content := do
  let l := Line.of t
  match String.ofList l.name with
  | "RRULE" =>
    onlyParameter "RRULE" [] l.parameters
    return { c with rules := c.rules ++ [l.value] }
  | "RDATE" =>
    onlyParameter "RDATE" ["VALUE=DATE-TIME".toList] l.parameters
    return { c with dates := c.dates ++ [l.value] }
  | "EXRULE" =>
    onlyParameter "EXRULE" [] l.parameters
    return { c with exceptions := c.exceptions ++ [l.value] }
  | "EXDATE" =>
    let _ ← readDates zones l
    return c
  | "DTSTART" =>
    match ← readDates zones l with
    | [m] => return { c with start := some m }
    | _ => throw (.manyStarts l.value)
  | _ => throw (.unsupportedProperty l.name)

def Content.settle (c : Content) : Except Flaw Unit := do
  c.rules.forM (readRule c.start)
  c.dates.forM fun v => (cutAt ',' v).forM fun t => discard (readDate t)
  c.exceptions.forM (readRule c.start)

/-- Reads a text, all of it in upper case but the names of zones. -/
def read (t : List Char) : Except Flaw Unit := do
  match words (upper t) with
  | [] => throw .noPair
  | [line] =>
    if line.contains ':' && !mark.isPrefixOf line then
      (← Content.put (zonesFrom 0 t) {} line).settle
    else readRule none line
  | lines => (← lines.foldlM (Content.put (zonesFrom 0 t)) {}).settle

end Scrutiny.Recurrence
