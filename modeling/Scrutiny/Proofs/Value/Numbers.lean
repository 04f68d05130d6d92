import Scrutiny.Proofs.Decimal.Numeral
import Scrutiny.Proofs.Decimal.Quantity
import Scrutiny.Proofs.Value.Writing

/-!
# Values as numbers

A value stands for a number as an integer, as a finite decimal or by what it says, and reading it as
a decimal gives just that number. Integers are read in another way, but what is an integer of either
width is a decimal too, and the same number: a decimal that is written with digits alone has no
exponent, and digits mean the same to both ways of reading.
-/

set_option autoImplicit false

namespace Scrutiny

open Text

namespace Text

theorem digitValue?_last (n : Nat) : digitValue? (Nat.digitChar (n % 10)) = some (n % 10) :=
  (Decimal.digitChar_facts ⟨n % 10, Nat.mod_lt n (by decide)⟩).1

theorem naturalText_eq (n : Nat) : naturalText n =
    (if n < 10 then [] else naturalText (n / 10)) ++ [Nat.digitChar (n % 10)] := by
  rw [naturalText, Nat.toDigits_eq_if (by decide)]
  split
  · rename_i h
    rw [Nat.mod_eq_of_lt h]
    rfl
  · rfl

theorem all_isDigit_naturalText (n : Nat) : (naturalText n).all isDigit = true := by
  induction n using Nat.strongRecOn with
  | ind n ih =>
    rw [naturalText_eq, List.all_append, List.all_cons, isDigit, digitValue?_last]
    split
    · rfl
    · rw [ih (n / 10) (by omega)]
      rfl

theorem positional_naturalText (n : Nat) : positional (naturalText n) = n := by
  induction n using Nat.strongRecOn with
  | ind n ih =>
    rw [naturalText_eq, positional_append_one, digitValue, digitValue?_last, Option.getD_some]
    split
    · change 10 * 0 + n % 10 = n
      omega
    · rw [ih (n / 10) (by omega)]
      omega

theorem positional_lt (t : List Char) : positional t < tenTo t.length := by
  induction t using List.reverseRecOn with
  | nil => exact tenTo_pos 0
  | append_singleton t c ih =>
    have hc : digitValue c < 10 := by
      unfold digitValue
      cases hd : digitValue? c with
      | none => exact Nat.zero_lt_succ 9
      | some d => exact digitValue?_lt hd
    rw [positional_append_one, List.length_append, List.length_singleton, tenTo_succ]
    omega

theorem not_mem_of_isSignedDigits {t : List Char} {x : Char} (h : isSignedDigits t = true)
    (hx : isDigit x = false) (hp : x ≠ '+') (hm : x ≠ '-') : x ∉ t := by
  simp only [isSignedDigits, Bool.and_eq_true] at h
  have hmem := Decimal.not_mem_digits hx h.2
  obtain ⟨s, hs, ht⟩ := Decimal.exists_signWord t
  rw [ht, List.mem_append, not_or]
  refine ⟨?_, hmem⟩
  generalize (signOf t).1 = n at hs
  cases hs <;> simp [hp, hm]

end Text

namespace Decimal

theorem signWord_signText (n : Bool) : SignWord n (signText n) := by
  cases n
  · exact .bare
  · exact .minus

theorem exponent_eq_zero {c : Nat} {e : Int} (hp : '.' ∉ finiteText c e)
    (he : 'E' ∉ finiteText c e) : e = 0 := by
  have hpos := digitCount_pos c
  unfold digitCount at hpos
  simp only [finiteText] at hp he
  split at hp
  · rename_i hplain
    simp only [withPoint] at hp
    split at hp
    · simp at hp
    · split at hp
      · simp at hp
      · omega
  · rename_i hplain
    rw [if_neg hplain, List.mem_append, not_or, exponentText] at he
    have hleft := he.2
    split at hleft
    · omega
    · simp at hleft

theorem finiteText_zero (c : Nat) : finiteText c 0 = naturalText c := by
  have hpos := digitCount_pos c
  unfold digitCount at hpos
  simp only [finiteText, withPoint]
  rw [if_pos (by omega), if_neg (by omega), if_neg (by omega)]
  simp

theorem finite_of_isSignedDigits {d : Decimal} (h : isSignedDigits d.text = true) :
    ∃ n c, d = .finite n c 0 ∧ signOf d.text = (n, naturalText c) := by
  have hno (x : Char) (hx : isDigit x = false) (hp : x ≠ '+') (hm : x ≠ '-') : x ∉ d.text :=
    not_mem_of_isSignedDigits h hx hp hm
  cases d with
  | finite n c e =>
    have hpoint := hno '.' (by decide) (by decide) (by decide)
    have hmark := hno 'E' (by decide) (by decide) (by decide)
    rw [text, List.mem_append, not_or] at hpoint hmark
    obtain rfl := exponent_eq_zero hpoint.2 hmark.2
    have hb := begins_of_digits (List.ne_nil_of_length_pos (digitCount_pos c))
      (all_isDigit_naturalText c) []
    rw [List.append_nil] at hb
    refine ⟨n, c, rfl, ?_⟩
    rw [text, finiteText_zero, signOf_append (signWord_signText n) hb]
  | infinite n =>
    exact absurd (by simp [text]) (hno 'I' (by decide) (by decide) (by decide))
  | undefined n s p =>
    exact absurd (by simp [text]) (hno 'N' (by decide) (by decide) (by decide))

theorem toRat_whole (n : Bool) (c : Nat) : (finite n c 0).toRat = (signed n c : Int) := by
  cases n <;> simp [toRat, withSign, scaled, signed]

theorem inRange_of_length {t : List Char} (hne : t ≠ []) (h : t.length ≤ digitLimit) :
    InRange (positional t) 0 := by
  have hcount : digitCount (positional t) ≤ t.length :=
    (digitCount_le_iff (List.length_pos_iff.2 hne)).2 (positional_lt t)
  unfold digitLimit at h
  unfold InRange leadingPower highestPower lowestExponent
  omega

end Decimal

namespace Value
variable {field : Option String} {v : Value} {n : Int} {d : Decimal}

/-- The number that a value stands for: no number for a truth value, and for a value that is no
number itself the one that it says. -/
def Denotes : Value → ℚ → Prop
  | .bool _, _ => False
  | .int n, x => x = n
  | .decimal d, x => x = d.toRat
  | v, x => ∃ t n c e, v.wording = .ok t ∧ Decimal.IsWritten n c e t ∧
      x = (Decimal.finite n c e).toRat

theorem denotes_said (hb : ∀ b, v ≠ .bool b) (hi : ∀ n, v ≠ .int n) (hd : ∀ d, v ≠ .decimal d)
    {x : ℚ} : v.Denotes x ↔ ∃ t n c e, v.wording = .ok t ∧ Decimal.IsWritten n c e t ∧
      x = (Decimal.finite n c e).toRat := by
  cases v with
  | bool b => exact absurd rfl (hb b)
  | int n => exact absurd rfl (hi n)
  | decimal d => exact absurd rfl (hd d)
  | _ => exact Iff.rfl

theorem denotes_iff (h : v.asDecimal field = .ok d) (x : ℚ) : v.Denotes x ↔ x = d.toRat := by
  unfold asDecimal at h
  split at h
  · exact absurd h unreadable_ne_ok
  · obtain ⟨-, rfl⟩ := finite_eq_ok.1 h
    exact Iff.rfl
  · obtain rfl := Except.ok.inj h
    rw [Decimal.toRat_ofInt]
    exact Iff.rfl
  · rename_i hbool hdecimal hint
    obtain ⟨t, ht, h⟩ := ok_of_bind h
    split at h
    · rename_i d' hread
      obtain ⟨hf, rfl⟩ := finite_eq_ok.1 h
      cases d' with
      | finite n c e =>
        have hw := (Decimal.isWritten_of_read? hread).1
        rw [denotes_said hbool hint hdecimal]
        constructor
        · rintro ⟨t', n', c', e', ht', hw', rfl⟩
          rw [ht] at ht'
          obtain rfl := Except.ok.inj ht'
          rw [Decimal.read?_of_isWritten hw', Decimal.bounded?_eq_some] at hread
          obtain ⟨⟨rfl, rfl, rfl⟩, -⟩ := hread
          rfl
        · rintro rfl
          exact ⟨t, n, c, e, ht, hw, rfl⟩
      | _ => cases hf
    · exact absurd h unreadable_ne_ok

theorem holds_iff {w : Width} : w.holds n = true ↔ w.lowest ≤ n ∧ n ≤ w.highest := by
  simp [Width.holds]

theorem holds_long (h : Width.short.holds n = true) : Width.long.holds n = true := by
  obtain ⟨hl, hh⟩ := holds_iff.1 h
  exact holds_iff.2 ⟨Int.le_trans (by decide) hl, Int.le_trans hh (by decide)⟩

theorem asInteger_eq_ok {w : Width} : v.asInteger field w = .ok n ↔ w.holds n = true ∧
    (v = .int n ∨ (∀ b, v ≠ .bool b) ∧ (∀ m, v ≠ .int m) ∧ ∃ t, v.wording = .ok t ∧
      isSignedDigits t = true ∧ signedValue? t = some n) := by
  unfold asInteger
  split
  · simp [unreadable_ne_ok]
  · rw [within_eq_ok]
    constructor
    · rintro ⟨hw, rfl⟩
      exact ⟨hw, .inl rfl⟩
    · rintro ⟨hw, h | ⟨-, hint, -⟩⟩
      · exact ⟨Value.int.inj h ▸ hw, Value.int.inj h⟩
      · exact absurd rfl (hint _)
  · rename_i hbool hint
    constructor
    · intro h
      obtain ⟨t, ht, h⟩ := ok_of_bind h
      split at h
      · rename_i hs
        split at h
        · rename_i m hm
          obtain ⟨hw, rfl⟩ := within_eq_ok.1 h
          exact ⟨hw, .inr ⟨hbool, hint, t, ht, hs, hm⟩⟩
        · cases h
      · exact absurd h unreadable_ne_ok
    · rintro ⟨hw, rfl | ⟨-, -, t, ht, hs, hm⟩⟩
      · exact absurd rfl (hint n)
      · rw [ht]
        change (if isSignedDigits t = true then _ else _) = _
        rw [if_pos hs, hm]
        exact within_eq_ok.2 ⟨hw, rfl⟩

theorem asInteger_long (h : v.asInteger field .short = .ok n) :
    v.asInteger field .long = .ok n := by
  obtain ⟨hw, hv⟩ := asInteger_eq_ok.1 h
  exact asInteger_eq_ok.2 ⟨holds_long hw, hv⟩

theorem signedValue?_eq_some {t : List Char} (h : signedValue? t = some n) :
    (signOf t).2.length ≤ digitLimit ∧ signed (signOf t).1 (positional (signOf t).2) = n := by
  unfold signedValue? at h
  split at h
  · rename_i hl
    exact ⟨hl, Option.some.inj h⟩
  · cases h

theorem read?_digits {t : List Char} (hs : isSignedDigits t = true) (h : signedValue? t = some n) :
    ∃ d, Decimal.read? t = some d ∧ d.isFinite = true ∧ d.toRat = n := by
  obtain ⟨hl, rfl⟩ := signedValue?_eq_some h
  have hw := Decimal.isWritten_of_isSignedDigits hs
  simp only [isSignedDigits, Bool.and_eq_true, Bool.not_eq_true', List.isEmpty_eq_false_iff] at hs
  exact ⟨_, Decimal.read?_eq_some_iff.2 ⟨hw, Decimal.inRange_of_length hs.1 hl⟩, rfl,
    Decimal.toRat_whole _ _⟩

theorem asDecimal_of_asInteger {w : Width} (h : v.asInteger field w = .ok n) :
    ∃ d, v.asDecimal field = .ok d ∧ d.toRat = n := by
  obtain ⟨-, rfl | ⟨hbool, hint, t, ht, hs, hn⟩⟩ := asInteger_eq_ok.1 h
  · exact ⟨_, rfl, Decimal.toRat_ofInt n⟩
  · unfold asDecimal
    split
    · exact absurd rfl (hbool _)
    · obtain rfl := Except.ok.inj ht
      obtain ⟨m, c, rfl, hsign⟩ := Decimal.finite_of_isSignedDigits hs
      obtain ⟨-, hvalue⟩ := signedValue?_eq_some hn
      rw [hsign, positional_naturalText] at hvalue
      exact ⟨_, rfl, by rw [Decimal.toRat_whole, hvalue]⟩
    · exact absurd rfl (hint _)
    · obtain ⟨d, hread, hf, hd⟩ := read?_digits hs hn
      refine ⟨d, ?_, hd⟩
      simp only [ht, bind, Except.bind, hread]
      exact finite_eq_ok.2 ⟨hf, rfl⟩

end Value
end Scrutiny
