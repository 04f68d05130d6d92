/-!
Powers of the three numbers that decimals and doubles are built on.
-/

set_option autoImplicit false

namespace Scrutiny

def twoTo (n : Nat) : Nat := Nat.pow 2 n

def fiveTo (n : Nat) : Nat := Nat.pow 5 n

def tenTo (n : Nat) : Nat := Nat.pow 10 n

theorem tenTo_succ (n : Nat) : tenTo (n + 1) = tenTo n * 10 := rfl

theorem tenTo_pos (n : Nat) : 0 < tenTo n := Nat.pow_pos (by decide)

end Scrutiny
