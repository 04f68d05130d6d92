import Scrutiny.Report.Basic

/-!
Reading reports. A field is looked for under its name for clients and then under the other one.
Text fields take text, or bytes that are text; list fields take every kind of list and set; what
is missing takes a default, where there is one. Problems are collected in the order of the fields,
so that a report is rejected for all of them at once.

Reading stands for a library's validation of data, and this is what the results on reports use of
it: the first name is looked for before the second, a field that is a text takes a text as it is, a
field without a type takes any value as it is, a list is read item by item and in order, and a record
has an item as soon as its fields have theirs. They use nothing of what is refused, nor of bytes,
sets, defaults or the order of problems.
-/

set_option autoImplicit false

namespace Scrutiny.Report

abbrev Checked (α : Type) := Except (List Problem) α

namespace Checked

variable {α β γ : Type}

/-- Both results, or the problems of both. -/
def both (a : Checked α) (b : Checked β) : Checked (α × β) :=
  match a, b with
  | .ok x, .ok y => .ok (x, y)
  | .error ps, .ok _ => .error ps
  | .ok _, .error qs => .error qs
  | .error ps, .error qs => .error (ps ++ qs)

def all : List (Checked α) → Checked (List α)
  | [] => .ok []
  | c :: cs => (both c (all cs)).map fun p => p.1 :: p.2

end Checked

def problem {α : Type} (kind : ProblemKind) (place : List Step) : Checked α :=
  .error [⟨kind, place⟩]

abbrev Entries := List (Value × Value)

def valueUnder? (name : String) (es : Entries) : Option Value :=
  (es.find? fun e => match e.1 with
    | .text s => s == name
    | _ => false).map Prod.snd

/-- A field's value with the name it was found under. -/
def find? (f : FieldName) (es : Entries) : Option (String × Value) :=
  match valueUnder? f.forClients es with
  | some v => some (f.forClients, v)
  | none => (valueUnder? f.forPrograms es).map (f.forPrograms, ·)

def textOfBytes? (bs : List UInt8) : Option String := String.fromUTF8? ⟨bs.toArray⟩

def readText (place : List Step) : Value → Checked String
  | .text s => .ok s
  | .bytes bs =>
    match textOfBytes? bs with
    | some s => .ok s
    | none => problem .brokenText place
  | _ => problem .notText place

def readField {α : Type} (place : List Step) (f : FieldName) (default : Option α)
    (read : List Step → Value → Checked α) (es : Entries) : Checked α :=
  match find? f es, default with
  | some (name, v), _ => read (place ++ [.field name]) v
  | none, some d => .ok d
  | none, none => problem .missing (place ++ [.field f.forClients])

def textField (place : List Step) (f : FieldName) (es : Entries) : Checked String :=
  readField place f none readText es

def items? : Value → Option (List Value)
  | .list vs => some vs
  | .tuple vs => some vs
  | .set vs => some vs
  | .frozenset vs => some vs
  | _ => none

def readItems {α : Type} (read : List Step → Value → Checked α) (place : List Step) (first : Nat) :
    List Value → List (Checked α)
  | [] => []
  | v :: vs => read (place ++ [.item first]) v :: readItems read place (first + 1) vs

def readList {α : Type} (read : List Step → Value → Checked α) (place : List Step) (v : Value) :
    Checked (List α) :=
  match items? v with
  | some vs => Checked.all (readItems read place 0 vs)
  | none => problem .notList place

def readRecord {α : Type} (read : List Step → Entries → Checked α) (place : List Step) :
    Value → Checked α
  | .dict es => read place es
  | _ => problem .notRecord place

def readAny (_ : List Step) (v : Value) : Checked Value := .ok v

def readArg : List Step → Value → Checked Value :=
  readRecord fun place es => readField place Names.value (some .null) readAny es

def readItemTexts (place : List Step) (es : Entries) :
    Checked (String × String × String × String) :=
  (textField place Names.developerMessage es).both
    ((textField place Names.userMessage es).both
      ((textField place Names.code es).both (textField place Names.parameter es)))

def readItem : List Step → Value → Checked Item :=
  readRecord fun place es =>
    ((readItemTexts place es).both
      ((readField place Names.value (some .null) readAny es).both
        (readField place Names.args (some []) (readList readArg) es))).map
      fun ((developer, user, code, parameter), value, args) =>
        ⟨developer, user, code, parameter, value, args⟩

def readAt : List Step → Value → Checked Report :=
  readRecord fun place es =>
    ((readField place Names.developerMessage (some standardMessage) readText es).both
      ((readField place Names.httpStatusCode (some "400") readText es).both
        ((textField place Names.userMessage es).both
          ((textField place Names.code es).both
            (readField place Names.errors (some []) (readList readItem) es))))).map
      fun (developer, status, user, code, errors) => ⟨developer, status, user, code, errors⟩

def settle {α : Type} : Checked α → Except Fault α
  | .ok a => .ok a
  | .error ps => .error (.problems ps)

def readArgument (v : Value) : Except Fault Value := settle (readArg [] v)

/-- Reads an item on its own. -/
def Item.read (v : Value) : Except Fault Item := settle (readItem [] v)

/-- Reads a report. -/
def read (v : Value) : Except Fault Report := settle (readAt [] v)

def Item.ofRecord (r : ErrorRecord) : Except Fault Item :=
  settle (readItem [] (.dict [(.text Names.developerMessage.forPrograms, r.message),
    (.text Names.userMessage.forPrograms, r.message), (.text Names.code.forPrograms, r.code),
    (.text Names.parameter.forPrograms, r.field), (.text Names.value.forPrograms, r.rejected),
    (.text Names.args.forPrograms, .list (r.args.map (argValue .programs)))]))

/-- The report on violations, with the texts of their failure. -/
def ofFailure (f : Failure) (errors : List ErrorRecord) : Except Fault Report := do
  let status ← f.status.plainText
  let items ← errors.mapM Item.ofRecord
  settle (((readText [.field Names.userMessage.forPrograms] f.message).both
    (readText [.field Names.code.forPrograms] f.code)).map
      fun (user, code) => ⟨standardMessage, status, user, code, items⟩)

end Scrutiny.Report
