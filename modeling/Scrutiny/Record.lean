import Scrutiny.Value.Basic

/-!
Records of violations. A record has a code for programs, a message for people, the parameter it
is about, the value that was refused and further values for the message. Nothing demands that the
first three are texts until the record is written in a report.
-/

set_option autoImplicit false

namespace Scrutiny

structure ErrorRecord where
  code : Value
  message : Value
  field : Value
  rejected : Value
  args : List Value

namespace ErrorRecord

def toValue (r : ErrorRecord) : Value :=
  .dict [(.text "code", r.code), (.text "default_message", r.message), (.text "field", r.field),
    (.text "rejected_value", r.rejected), (.text "args", .list r.args)]

def parts (r : ErrorRecord) : Value :=
  .tuple [r.code, r.message, r.field, r.rejected, .tuple r.args]

end ErrorRecord
end Scrutiny
