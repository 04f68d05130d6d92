import Scrutiny.Value.Equal

/-!
Equality of records: equal parts, as values are equal.
-/

set_option autoImplicit false

namespace Scrutiny.ErrorRecord

def equal (a b : ErrorRecord) : Except Fault Bool := a.parts.equal b.parts

end Scrutiny.ErrorRecord
