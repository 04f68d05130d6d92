import Mathlib.Data.Nat.Digits.Defs
import Scrutiny.Failure
import Scrutiny.Proofs.Value.Numbers

/-!
# Integers and their texts

An integer is said by a sign, which may be left out, and digits in base ten, each of any script.
What a value is read as is the integer that it is or that its text says, as long as that is in the
range of the width; all else is refused. Zeros in front of a text make no difference.
-/

set_option autoImplicit false

namespace Scrutiny

open Text Decimal

namespace Text
variable {c : Char} {d : Nat} {cs : List Char} {ds : List Nat} {n : Int} {t : List Char}

def IsWorth (d : Nat) (c : Char) : Prop := d < 10 ∧ ∃ z ∈ digitZeros, c.toNat = z + d

theorem digitZeros_apart : ∀ y ∈ digitZeros, ∀ z ∈ digitZeros,
    y = z ∨ y + 9 < z ∨ z + 9 < y := by
  decide +kernel

theorem digitValue?_eq_some : digitValue? c = some d ↔ IsWorth d c := by
  constructor
  · intro h
    have hd := digitValue?_lt h
    obtain ⟨z, hz, rfl⟩ := Option.map_eq_some_iff.1 h
    have hin := List.find?_some hz
    simp only [Bool.and_eq_true, decide_eq_true_eq] at hin
    exact ⟨hd, z, List.mem_of_find?_eq_some hz, by omega⟩
  · rintro ⟨hd, z, hz, hc⟩
    unfold digitValue?
    cases hf : digitZeros.find? fun z => z ≤ c.toNat && c.toNat ≤ z + 9 with
    | none =>
      have hout := List.find?_eq_none.1 hf z hz
      simp only [Bool.and_eq_true, decide_eq_true_eq] at hout
      omega
    | some y =>
      have hin := List.find?_some hf
      simp only [Bool.and_eq_true, decide_eq_true_eq] at hin
      -- Two scripts do not share a digit.
      have hapart := digitZeros_apart y (List.mem_of_find?_eq_some hf) z hz
      rw [Option.map_some, Option.some.injEq]
      omega

theorem isWorth_iff : IsWorth d c ↔ isDigit c = true ∧ digitValue c = d := by
  rw [← digitValue?_eq_some, isDigit, digitValue]
  cases digitValue? c <;> simp

theorem areWorth_iff :
    List.Forall₂ IsWorth ds cs ↔ cs.all isDigit = true ∧ cs.map digitValue = ds := by
  induction cs generalizing ds with
  | nil => simp [eq_comm]
  | cons c cs ih =>
    rw [List.forall₂_cons_right_iff, List.all_cons, List.map_cons, Bool.and_eq_true]
    constructor
    · rintro ⟨d, ds, hd, hds, rfl⟩
      rw [isWorth_iff] at hd
      rw [ih] at hds
      exact ⟨⟨hd.1, hds.1⟩, by rw [hd.2, hds.2]⟩
    · rintro ⟨⟨hc, hcs⟩, rfl⟩
      exact ⟨digitValue c, cs.map digitValue, isWorth_iff.2 ⟨hc, rfl⟩, ih.2 ⟨hcs, rfl⟩, rfl⟩

theorem positional_eq_ofDigits (cs : List Char) :
    positional cs = Nat.ofDigits 10 (cs.map digitValue).reverse := by
  induction cs using List.reverseRecOn with
  | nil => rfl
  | append_singleton cs c ih =>
    rw [positional_append_one, ih, List.map_append, List.reverse_append]
    simp only [List.map_cons, List.map_nil, List.reverse_singleton, List.singleton_append,
      Nat.ofDigits_cons]
    omega

theorem positional_zeros (k : Nat) (cs : List Char) :
    positional (List.replicate k '0' ++ cs) = positional cs := by
  have hzero : digitValue '0' = 0 := by decide
  induction k with
  | zero => rfl
  | succ k ih =>
    rw [List.replicate_succ, List.cons_append, positional, List.foldl_cons, hzero]
    exact ih

/-- A sign, which may be left out, and digits, with the integer that they say. -/
inductive SaysInteger : Int → List Char → Prop
  | mk {negative : Bool} {s cs : List Char} {ds : List Nat} (hs : SignWord negative s)
      (hne : cs ≠ []) (hd : List.Forall₂ IsWorth ds cs) :
      SaysInteger (signed negative (Nat.ofDigits 10 ds.reverse)) (s ++ cs)

theorem saysInteger_iff : SaysInteger n t ↔
    isSignedDigits t = true ∧ signed (signOf t).1 (positional (signOf t).2) = n := by
  constructor
  · rintro ⟨hs, hne, hd⟩
    obtain ⟨hcs, rfl⟩ := areWorth_iff.1 hd
    have hb := begins_of_digits hne hcs []
    rw [List.append_nil] at hb
    rw [isSignedDigits, signOf_append hs hb, positional_eq_ofDigits]
    simp [hne, hcs]
  · rintro ⟨ht, rfl⟩
    obtain ⟨s, hs, hst⟩ := exists_signWord t
    simp only [isSignedDigits, Bool.and_eq_true, Bool.not_eq_true',
      List.isEmpty_eq_false_iff] at ht
    have h := SaysInteger.mk hs ht.1 (areWorth_iff.2 ⟨ht.2, rfl⟩)
    rw [← hst, ← positional_eq_ofDigits] at h
    exact h

def withZeros (k n : Nat) : List Char := List.replicate k '0' ++ naturalText n

theorem withZeros_ne_nil (k n : Nat) : withZeros k n ≠ [] := by
  apply List.append_ne_nil_of_right_ne_nil
  exact List.ne_nil_of_length_pos (digitCount_pos n)

theorem all_isDigit_withZeros (k n : Nat) : (withZeros k n).all isDigit = true := by
  have hzero : isDigit '0' = true := by decide
  rw [withZeros, List.all_append, all_isDigit_naturalText, Bool.and_true, List.all_replicate]
  simp [hzero]

theorem signOf_withZeros {negative : Bool} {s : List Char} (hs : SignWord negative s)
    (k n : Nat) : signOf (s ++ withZeros k n) = (negative, withZeros k n) := by
  have hb := begins_of_digits (withZeros_ne_nil k n) (all_isDigit_withZeros k n) []
  rw [List.append_nil] at hb
  exact signOf_append hs hb

theorem signed_natAbs (n : Int) : signed (decide (n < 0)) n.natAbs = n := by
  unfold signed
  by_cases h : n < 0
  · simp only [h, decide_true, if_true]
    omega
  · simp only [h, decide_false, Bool.false_eq_true, if_false]
    omega

theorem saysInteger_withZeros {s : List Char} (hs : SignWord (decide (n < 0)) s) (k : Nat) :
    SaysInteger n (s ++ withZeros k n.natAbs) := by
  rw [saysInteger_iff, isSignedDigits, signOf_withZeros hs]
  constructor
  · simp [withZeros_ne_nil, all_isDigit_withZeros]
  · rw [withZeros, positional_zeros, positional_naturalText, signed_natAbs]

end Text

def Width.bits : Width → Nat
  | .short => 32
  | .long => 64

/-- The integers of a width: those that so many bits hold, one of them for the sign. -/
def Width.Reaches (w : Width) (n : Int) : Prop :=
  -2 ^ (w.bits - 1) ≤ n ∧ n ≤ 2 ^ (w.bits - 1) - 1

instance (w : Width) (n : Int) : Decidable (w.Reaches n) :=
  inferInstanceAs (Decidable (_ ∧ _))

theorem Width.reaches_iff {w : Width} {n : Int} : w.Reaches n ↔ w.holds n = true := by
  rw [Value.holds_iff]
  cases w <;> exact Iff.rfl

namespace Value
variable {v : Value} {n : Int} {w : Width} {field : Option String}

/-- The integer that a value is or, if it is none, that its text says. -/
def SaysInteger : Value → Int → Prop
  | .bool _, _ => False
  | .int m, n => m = n
  | v, n => ∃ t, v.wording = .ok t ∧ Text.SaysInteger n t

/-- No integer in the value is too long for text, nor are the digits that it is written with. -/
def IsBrief (v : Value) : Prop :=
  ¬ HasLong v.integers ∧
    ∀ t, v.wording = .ok t → isSignedDigits t = true → (signOf t).2.length ≤ digitLimit

theorem saysInteger_of_kind (hb : ∀ b, v ≠ .bool b) (hi : ∀ m, v ≠ .int m) :
    v.SaysInteger n ↔ ∃ t, v.wording = .ok t ∧ Text.SaysInteger n t := by
  cases v with
  | bool b => exact absurd rfl (hb b)
  | int m => exact absurd rfl (hi m)
  | _ => exact Iff.rfl

theorem asInteger_iff (h : v.IsBrief) :
    v.asInteger field w = .ok n ↔ v.SaysInteger n ∧ w.Reaches n := by
  rw [asInteger_eq_ok, Width.reaches_iff, and_comm]
  apply and_congr_left
  intro _
  constructor
  · rintro (rfl | ⟨hb, hi, t, ht, hs, hn⟩)
    · rfl
    · rw [saysInteger_of_kind hb hi]
      exact ⟨t, ht, saysInteger_iff.2 ⟨hs, (signedValue?_eq_some hn).2⟩⟩
  · intro hv
    by_cases hb : ∃ b, v = .bool b
    · obtain ⟨b, rfl⟩ := hb
      cases hv
    by_cases hi : ∃ m, v = .int m
    · obtain ⟨m, rfl⟩ := hi
      rw [show m = n from hv]
      exact .inl rfl
    · rw [not_exists] at hb hi
      obtain ⟨t, ht, hn⟩ := (saysInteger_of_kind hb hi).1 hv
      obtain ⟨hs, hn⟩ := saysInteger_iff.1 hn
      refine .inr ⟨hb, hi, t, ht, hs, ?_⟩
      rw [signedValue?, if_pos (h.2 t ht hs), hn]

theorem asInteger_refused (h : v.IsBrief) (hn : ∀ n, v.asInteger field w ≠ .ok n) :
    ∃ r, v.asInteger field w = .error (.refused r) ∧ r.kind = .unreadable ∧
      r.details = [("field", .ofOption field), ("value", v), ("target", .text w.target.name)] := by
  cases he : v.asInteger field w with
  | ok n => exact absurd he (hn n)
  | error e =>
    cases asInteger_failsBy field v w e he with
    | refused shown hshown => exact ⟨_, rfl, rfl, rfl⟩
    | unwritable hl => exact absurd hl h.1
    | endless w' hw digits hd hs hl => exact absurd (h.2 digits hd hs) (Nat.not_le.2 hl)

theorem saysInteger_text {s : String} :
    (Value.text s).SaysInteger n ↔ Text.SaysInteger n s.toList := by
  constructor
  · rintro ⟨t, ht, hn⟩
    obtain rfl : s.toList = t := Except.ok.inj ht
    exact hn
  · intro hn
    exact ⟨s.toList, rfl, hn⟩

theorem isBrief_text {s : String}
    (h : isSignedDigits s.toList = true → (signOf s.toList).2.length ≤ digitLimit) :
    (Value.text s).IsBrief := by
  constructor
  · rintro ⟨m, hm, -⟩
    cases hm
  · intro t ht
    obtain rfl : s.toList = t := Except.ok.inj ht
    exact h

end Value

/-- Reading as an integer of a width gives the integer that a value is, or that its text says, where
it is in the range of the width, and refuses every other value. In particular the text of an integer
in range is read as that integer, with zeros in front of its digits or without, and with a plus sign
or without if it is not negative. -/
theorem integers_read_exactly (field : Option String) (w : Width) :
    (∀ v : Value, v.IsBrief →
      (∀ n, v.asInteger field w = .ok n ↔ v.SaysInteger n ∧ w.Reaches n) ∧
      ((∀ n, v.SaysInteger n → ¬ w.Reaches n) →
        ∃ r, v.asInteger field w = .error (.refused r) ∧ r.kind = .unreadable ∧
          r.details =
            [("field", .ofOption field), ("value", v), ("target", .text w.target.name)])) ∧
    ∀ (n : Int) (s : List Char) (k : Nat), w.Reaches n → SignWord (decide (n < 0)) s →
      (withZeros k n.natAbs).length ≤ digitLimit →
      (Value.text (String.ofList (s ++ withZeros k n.natAbs))).asInteger field w = .ok n := by
  constructor
  · intro v hv
    constructor
    · exact fun n => Value.asInteger_iff hv
    · intro hout
      apply Value.asInteger_refused hv
      intro n hn
      obtain ⟨hsaid, hreaches⟩ := (Value.asInteger_iff hv).1 hn
      exact hout n hsaid hreaches
  · intro n s k hn hs hk
    have hbrief : (Value.text (String.ofList (s ++ withZeros k n.natAbs))).IsBrief := by
      apply Value.isBrief_text
      intro _
      rwa [String.toList_ofList, signOf_withZeros hs]
    rw [Value.asInteger_iff hbrief, Value.saysInteger_text, String.toList_ofList]
    exact ⟨saysInteger_withZeros hs k, hn⟩

theorem integers_read_exactly_boundary :
    let v : Value := .text "+२१४7483648"
    v.asInteger none .long = .ok 2147483648 ∧
    (∃ r, v.asInteger none .short = .error (.refused r) ∧ r.kind = .unreadable ∧
      r.details = [("field", .null), ("value", v), ("target", .text "int")]) ∧
    (Value.text "-0002147483648").asInteger none .short = .ok (-2147483648) := by
  intro v
  have hv : v.IsBrief := Value.isBrief_text (by decide)
  have hsaid (n : Int) : v.SaysInteger n ↔ 2147483648 = n := by
    rw [Value.saysInteger_text, saysInteger_iff]
    exact and_iff_right (by decide)
  have hleast : String.ofList (['-'] ++ withZeros 3 2147483648) = "-0002147483648" := by
    decide +kernel
  refine ⟨?_, ?_, ?_⟩
  · rw [((integers_read_exactly none .long).1 v hv).1, hsaid]
    decide
  · apply ((integers_read_exactly none .short).1 v hv).2
    intro n hn
    rw [← (hsaid n).1 hn]
    decide
  · rw [← hleast]
    apply (integers_read_exactly none .short).2 (-2147483648)
    · decide
    · exact .minus
    · decide +kernel

end Scrutiny
