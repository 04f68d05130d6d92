import Scrutiny.Text.Blank
import Scrutiny.Text.Digit

/-!
Integers as text. Two readings are in use: a strict one, an optional sign and digits, and a
lenient one that also trims and takes single underscores between digits. Neither reads a number
of more than a fixed count of digits, and a number that long is not written either.
-/

set_option autoImplicit false

namespace Scrutiny.Text

/-- The most digits that an integer may have when it is read or written. -/
def digitLimit : Nat := 4300

/-- Splits off one leading sign; `true` means minus. -/
def signOf : List Char → Bool × List Char
  | '+' :: r => (false, r)
  | '-' :: r => (true, r)
  | t => (false, t)

def signed (negative : Bool) (n : Nat) : Int := if negative then -(n : Int) else n

def isSignedDigits (t : List Char) : Bool :=
  !(signOf t).2.isEmpty && (signOf t).2.all isDigit

def signedValue? (t : List Char) : Option Int :=
  if (signOf t).2.length ≤ digitLimit then
    some (signed (signOf t).1 (positional (signOf t).2))
  else none

/-- Drops single underscores that stand between two digits; fails on any other character. -/
def groupedDigits? : List Char → Option (List Char)
  | [] => none
  | [c] => if isDigit c then some [c] else none
  | c :: '_' :: r => if isDigit c then (groupedDigits? r).map (c :: ·) else none
  | c :: r => if isDigit c then (groupedDigits? r).map (c :: ·) else none

def readInteger? (t : List Char) : Option Int :=
  match groupedDigits? (signOf (trim t)).2 with
  | some ds =>
    if ds.length ≤ digitLimit then some (signed (signOf (trim t)).1 (positional ds)) else none
  | none => none

def naturalText (n : Nat) : List Char := Nat.toDigits 10 n

def integerText (n : Int) : List Char :=
  if n < 0 then '-' :: naturalText n.natAbs else naturalText n.natAbs

def integerText? (n : Int) : Option (List Char) :=
  if (naturalText n.natAbs).length ≤ digitLimit then some (integerText n) else none

def padded (width n : Nat) : List Char :=
  List.replicate (width - (naturalText n).length) '0' ++ naturalText n

theorem naturalText_injective {m n : Nat} (h : naturalText m = naturalText n) : m = n := by
  have hr := congrArg (Nat.ofDigitChars 10 · 0) h
  simpa [naturalText, Nat.ofDigitChars_toDigits] using hr

theorem minus_not_mem_naturalText (n : Nat) : '-' ∉ naturalText n := by
  intro h
  have hd := Nat.isDigit_of_mem_toDigits (by decide) (by decide) h
  exact absurd hd (by decide)

theorem eq_of_integerText? {n : Int} {t : List Char} (h : integerText? n = some t) :
    t = integerText n := by
  unfold integerText? at h
  split at h
  · exact (Option.some.inj h).symm
  · cases h

theorem integerText_injective {m n : Int} (h : integerText m = integerText n) : m = n := by
  unfold integerText at h
  have hm := minus_not_mem_naturalText m.natAbs
  have hn := minus_not_mem_naturalText n.natAbs
  split at h <;> split at h
  · have ha := naturalText_injective (List.cons.inj h).2
    omega
  · rw [← h] at hn
    exact absurd List.mem_cons_self hn
  · rw [h] at hm
    exact absurd List.mem_cons_self hm
  · have ha := naturalText_injective h
    omega

end Scrutiny.Text
