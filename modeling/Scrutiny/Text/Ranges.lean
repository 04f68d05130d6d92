/-!
Sets of characters given as inclusive intervals of code points. Tables of the text modules are
such sets; a character belongs to one when some interval holds its code point.
-/

set_option autoImplicit false

namespace Scrutiny.Text

abbrev Ranges := List (Nat × Nat)

def Ranges.holds (rs : Ranges) (c : Char) : Bool :=
  rs.any fun r => r.1 ≤ c.toNat && c.toNat ≤ r.2

theorem Ranges.holds_iff (rs : Ranges) (c : Char) :
    rs.holds c = true ↔ ∃ r ∈ rs, r.1 ≤ c.toNat ∧ c.toNat ≤ r.2 := by
  simp [Ranges.holds]

end Scrutiny.Text
