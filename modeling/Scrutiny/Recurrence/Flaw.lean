import Scrutiny.Calendar.Loose.Reading

/-!
Flaws of a recurrence rule that show when it is read: names and values that mean nothing, a
missing frequency, dates that are none, and lists that leave no time.
-/

set_option autoImplicit false

namespace Scrutiny.Recurrence

open Calendar

inductive Flaw where
  | noPair
  | manyMarks
  | wrongMark
  | unknownName (name : List Char)
  | invalid (name value : List Char)
  | noFrequency
  | unlikeZones
  | badPosition
  | noTimes
  | badHour
  | badMinute
  | badSecond
  | unsupportedProperty (name : List Char)
  /-- A parameter that a property does not have; dates leave their property unnamed. -/
  | unsupportedParameter (property : String) (parameter : List Char)
  | repeatedKind (parameter : List Char)
  | manyStarts (value : List Char)
  | manyZones
  | noDate (text : List Char) (problem : Loose.Problem)

/-- The reason that a flaw is reported by; none if it is no flaw of the text. -/
def Flaw.reason? : Flaw → Option String
  | .noPair => some "not enough values to unpack (expected 2, got 1)"
  | .manyMarks => some "too many values to unpack (expected 2)"
  | .wrongMark => some "unknown parameter name"
  | .unknownName name => some ("unknown parameter '" ++ String.ofList name ++ "'")
  | .invalid name value =>
    some ("invalid '" ++ String.ofList name ++ "': " ++ String.ofList value)
  | .noFrequency => some "rrule.__init__() missing 1 required positional argument: 'freq'"
  | .unlikeZones =>
    some "RRULE UNTIL values must be specified in UTC when DTSTART is timezone-aware"
  | .badPosition => some "bysetpos must be between 1 and 366, or between -366 and -1"
  | .noTimes => some "Invalid rrule byxxx generates an empty set."
  | .badHour => some "hour must be in 0..23"
  | .badMinute => some "minute must be in 0..59"
  | .badSecond => some "second must be in 0..59"
  | .unsupportedProperty name => some ("unsupported property: " ++ String.ofList name)
  | .unsupportedParameter property parameter =>
    some ("unsupported " ++ property ++ "parm: " ++ String.ofList parameter)
  | .repeatedKind parameter =>
    some ("Duplicate value parameter found in: " ++ String.ofList parameter)
  | .manyStarts value => some ("Multiple DTSTART values specified:" ++ String.ofList value)
  | .manyZones => some "DTSTART/EXDATE specifies multiple timezone"
  | .noDate text problem => problem.message? text

end Scrutiny.Recurrence
