import Scrutiny.Failure
import Scrutiny.Value.Shown

/-!
Reports: violations in the form that clients read. Every field has a name for clients and one for
programs. Writing a report as a value gives a dictionary under either kind of names.
-/

set_option autoImplicit false

namespace Scrutiny

namespace Report

structure Item where
  developerMessage : String
  userMessage : String
  code : String
  parameter : String
  value : Value
  args : List Value

structure FieldName where
  forClients : String
  forPrograms : String

inductive Naming where
  | clients
  | programs
  deriving DecidableEq

def FieldName.under (f : FieldName) : Naming → String
  | .clients => f.forClients
  | .programs => f.forPrograms

def FieldName.plain (name : String) : FieldName := ⟨name, name⟩

namespace Names

def developerMessage : FieldName := ⟨"developerMessage", "developer_message"⟩
def httpStatusCode : FieldName := ⟨"httpStatusCode", "http_status_code"⟩
def userMessage : FieldName := ⟨"defaultUserMessage", "default_user_message"⟩
def code : FieldName := ⟨"userMessageGlobalisationCode", "user_message_globalisation_code"⟩
def parameter : FieldName := ⟨"parameterName", "parameter_name"⟩
def value : FieldName := .plain "value"
def args : FieldName := .plain "args"
def errors : FieldName := .plain "errors"

end Names

def dictUnder (n : Naming) (fields : List (FieldName × Value)) : Value :=
  .dict (fields.map fun f => (.text (f.1.under n), f.2))

def argValue (n : Naming) (arg : Value) : Value := dictUnder n [(Names.value, arg)]

def Item.toValue (n : Naming) (i : Item) : Value :=
  dictUnder n [(Names.developerMessage, .text i.developerMessage),
    (Names.userMessage, .text i.userMessage), (Names.code, .text i.code),
    (Names.parameter, .text i.parameter), (Names.value, i.value),
    (Names.args, .list (i.args.map (argValue n)))]

end Report

open Report

structure Report where
  developerMessage : String
  status : String
  userMessage : String
  code : String
  errors : List Item

namespace Report

def standardMessage : String :=
  "The request was invalid. This typically will happen due to validation errors which are provided."

def toValue (n : Naming) (r : Report) : Value :=
  dictUnder n [(Names.developerMessage, .text r.developerMessage),
    (Names.httpStatusCode, .text r.status), (Names.userMessage, .text r.userMessage),
    (Names.code, .text r.code), (Names.errors, .list (r.errors.map (Item.toValue n)))]

end Report
end Scrutiny
