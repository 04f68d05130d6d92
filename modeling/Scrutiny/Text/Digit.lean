import Scrutiny.Text.Ranges

/-!
Decimal digits of every script. Each script lists its ten digits in order, so a table of the
zeros decides both which characters are digits and what each is worth.
-/

set_option autoImplicit false

namespace Scrutiny.Text

def digitZeros : List Nat := [
  48, 1632, 1776, 1984, 2406, 2534, 2662, 2790, 2918, 3046, 3174, 3302, 3430, 3558, 3664, 3792,
  3872, 4160, 4240, 6112, 6160, 6470, 6608, 6784, 6800, 6992, 7088, 7232, 7248, 42528, 43216,
  43264, 43472, 43504, 43600, 44016, 65296, 66720, 68912, 69734, 69872, 69942, 70096, 70384,
  70736, 70864, 71248, 71360, 71472, 71904, 72016, 72784, 73040, 73120, 92768, 92864, 93008,
  120782, 120792, 120802, 120812, 120822, 123200, 123632, 125264, 130032]

def digitValue? (c : Char) : Option Nat :=
  (digitZeros.find? fun z => z ≤ c.toNat && c.toNat ≤ z + 9).map (c.toNat - ·)

def isDigit (c : Char) : Bool := (digitValue? c).isSome

def digitValue (c : Char) : Nat := (digitValue? c).getD 0

def positional (t : List Char) : Nat :=
  t.foldl (fun n c => 10 * n + digitValue c) 0

theorem digitValue?_lt {c : Char} {d : Nat} (h : digitValue? c = some d) : d < 10 := by
  obtain ⟨z, hz, rfl⟩ := Option.map_eq_some_iff.1 h
  have := List.find?_some hz
  simp only [Bool.and_eq_true, decide_eq_true_eq] at this
  omega

theorem positional_append_one (t : List Char) (c : Char) :
    positional (t ++ [c]) = 10 * positional t + digitValue c := by
  simp [positional]

end Scrutiny.Text
