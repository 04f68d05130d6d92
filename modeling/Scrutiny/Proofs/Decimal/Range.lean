import Scrutiny.Decimal.Multiple

/-!
# Decimals out of range

Two questions about decimals have no answer for some of them. A decimal beyond the greatest one of
the working range has no scale. An integer cannot be told to be a multiple of a decimal that goes
into it too often, for the quotient would have more digits than the working range.
-/

set_option autoImplicit false

namespace Scrutiny.Decimal

open Text

theorem digitCount_le_iff {n k : Nat} (hk : 0 < k) : digitCount n ≤ k ↔ n < tenTo k :=
  Nat.length_toDigits_le_iff (by decide) hk

theorem digitCount_pos (n : Nat) : 0 < digitCount n := Nat.length_toDigits_pos

theorem lt_tenTo_of_digitCount {n k : Nat} (h : digitCount n ≤ k) : n < tenTo k :=
  (digitCount_le_iff (Nat.lt_of_lt_of_le (digitCount_pos n) h)).1 h

theorem tenTo_zero : tenTo 0 = 1 := rfl

theorem tenTo_add (a b : Nat) : tenTo (a + b) = tenTo a * tenTo b := Nat.pow_add 10 a b

theorem tenTo_le {a b : Nat} (h : a ≤ b) : tenTo a ≤ tenTo b :=
  Nat.pow_le_pow_right (by decide) h

theorem tenTo_le_of_digitCount {n k : Nat} (hn : n ≠ 0) (h : k < digitCount n) : tenTo k ≤ n := by
  cases k with
  | zero => exact Nat.one_le_iff_ne_zero.2 hn
  | succ k => exact Nat.le_of_not_lt fun hl => Nat.not_le.2 h ((digitCount_le_iff k.succ_pos).2 hl)

theorem digitCount_le_of_le {n k : Nat} (h : n ≤ tenTo k) : digitCount n ≤ k + 1 :=
  (digitCount_le_iff k.succ_pos).2
    (Nat.lt_of_le_of_lt h (Nat.pow_lt_pow_right (by decide) k.lt_succ_self))

/-- A decimal that goes into an integer so often that the quotient has more digits than the
working range. -/
def IsTiny (n : Int) : Decimal → Prop
  | .finite _ d f => tenTo workingDigits * (d * tenTo f.toNat) ≤ n.natAbs * tenTo (-f).toNat
  | _ => False

theorem tenTo_mul_le_of_leadingPower {c d : Nat} {e f : Int} (hc : c ≠ 0)
    (h : (workingDigits : Int) < leadingPower c e - leadingPower d f) :
    tenTo workingDigits * (d * tenTo (f - e).toNat) ≤ c * tenTo (e - f).toNat := by
  have hpos := digitCount_pos c
  have hd : d ≤ tenTo (digitCount d) := Nat.le_of_lt (lt_tenTo_of_digitCount (Nat.le_refl _))
  have hc : tenTo (digitCount c - 1) ≤ c := tenTo_le_of_digitCount hc (by omega)
  have hexp : workingDigits + (digitCount d + (f - e).toNat) ≤ digitCount c - 1 + (e - f).toNat := by
    unfold leadingPower at h
    omega
  calc tenTo workingDigits * (d * tenTo (f - e).toNat)
      ≤ tenTo workingDigits * (tenTo (digitCount d) * tenTo (f - e).toNat) :=
        Nat.mul_le_mul_left _ (Nat.mul_le_mul_right _ hd)
    _ = tenTo (workingDigits + (digitCount d + (f - e).toNat)) := by rw [tenTo_add, tenTo_add]
    _ ≤ tenTo (digitCount c - 1 + (e - f).toNat) := tenTo_le hexp
    _ = tenTo (digitCount c - 1) * tenTo (e - f).toNat := tenTo_add _ _
    _ ≤ c * tenTo (e - f).toNat := Nat.mul_le_mul_right _ hc

theorem tenTo_mul_le_of_quotient {a b : Nat} (h : workingDigits < digitCount (a / b)) :
    tenTo workingDigits * b ≤ a := by
  have hq : a / b ≠ 0 := by
    intro h0
    rw [h0] at h
    exact absurd h (by decide)
  calc tenTo workingDigits * b
      ≤ a / b * b := Nat.mul_le_mul_right b (tenTo_le_of_digitCount hq h)
    _ ≤ a := Nat.div_mul_le_self a b

theorem isMultipleMagnitude_none {c d : Nat} {e f : Int}
    (h : isMultipleMagnitude c e d f = none) :
    tenTo workingDigits * (d * tenTo (f - e).toNat) ≤ c * tenTo (e - f).toNat := by
  unfold isMultipleMagnitude at h
  split at h
  case isTrue => cases h
  case isFalse hc =>
    split at h
    case isTrue => cases h
    case isFalse =>
      split at h
      case isTrue hfar => exact tenTo_mul_le_of_leadingPower hc hfar
      case isFalse =>
        simp only at h
        split at h
        case isTrue hlong => exact tenTo_mul_le_of_quotient hlong
        case isFalse => cases h

theorem isMultiple_none {n : Int} {negative : Bool} {d : Nat} {f : Int} (hd : d ≠ 0)
    (h : (ofInt n).isMultiple (.finite negative d f) = none) :
    IsTiny n (.finite negative d f) := by
  rw [ofInt, isMultiple, if_neg hd] at h
  simpa [IsTiny] using isMultipleMagnitude_none h

def greatestCoefficient : Nat := tenTo workingDigits - 1
def greatestExponent : Int := highestWorking - (workingDigits - 1)

/-- A decimal that is further from zero than all of the working range. -/
def IsVast : Decimal → Prop
  | .finite _ c e => compareMagnitude c e greatestCoefficient greatestExponent = .gt
  | _ => False

theorem leadingPower_greatest :
    leadingPower greatestCoefficient greatestExponent = highestWorking := by
  have hle : digitCount greatestCoefficient ≤ workingDigits :=
    (digitCount_le_iff (by decide)).2 (by decide)
  have hlt : ¬ digitCount greatestCoefficient ≤ workingDigits - 1 :=
    fun h => absurd ((digitCount_le_iff (by decide)).1 h) (by decide)
  have hw : workingDigits = 28 := rfl
  unfold leadingPower greatestExponent
  omega

theorem div_tenTo_lt {n m k : Nat} (h : n < tenTo (m + k)) : n / tenTo k < tenTo m := by
  rw [tenTo_add, Nat.mul_comm] at h
  exact Nat.div_lt_of_lt_mul h

theorem shiftRound_le {n m k : Nat} (h : n < tenTo (m + k)) : shiftRound n k ≤ tenTo m := by
  have hq := div_tenTo_lt h
  unfold shiftRound
  split
  · exact Nat.zero_le _
  · simp only
    split
    · omega
    · split <;> omega

theorem shiftRound_zero (n : Nat) : shiftRound n 0 = n := by
  simp [shiftRound, tenTo, Nat.mod_one]

theorem lt_of_shiftRound {n m k : Nat} (h : n < tenTo (m + k)) (hr : shiftRound n k = tenTo m) :
    (tenTo m - 1) * tenTo k < n := by
  have hm := tenTo_pos m
  have hq := div_tenTo_lt h
  have hdm := Nat.div_add_mod n (tenTo k)
  unfold shiftRound at hr
  split at hr
  · omega
  · simp only at hr
    split at hr
    · omega
    · have hk := tenTo_pos k
      have hlast : n / tenTo k = tenTo m - 1 := by
        split at hr <;> omega
      rw [hlast, Nat.mul_comm] at hdm
      omega

theorem greatestCoefficient_ne_zero : greatestCoefficient ≠ 0 := by decide

theorem vast_of_leadingPower {c : Nat} {e : Int} (hc : c ≠ 0)
    (h : highestWorking < leadingPower c e) :
    compareMagnitude c e greatestCoefficient greatestExponent = .gt := by
  have hne : ¬ (c = 0 ∨ greatestCoefficient = 0) := by simp [hc, greatestCoefficient_ne_zero]
  rw [compareMagnitude, if_neg hne, leadingPower_greatest, Int.compare_eq_gt.2 h]

theorem vast_of_digits {c k : Nat} {e : Int} (hl : leadingPower c e = highestWorking)
    (he : e + k = greatestExponent) (h : greatestCoefficient * tenTo k < c) :
    compareMagnitude c e greatestCoefficient greatestExponent = .gt := by
  have hne : ¬ (c = 0 ∨ greatestCoefficient = 0) := by
    have hc : c ≠ 0 := by omega
    simp [hc, greatestCoefficient_ne_zero]
  have hup : (e - greatestExponent).toNat = 0 := by omega
  have hdown : (greatestExponent - e).toNat = k := by omega
  rw [compareMagnitude, if_neg hne, leadingPower_greatest, hl, Int.compare_eq_eq.2 rfl]
  simp only
  rw [hup, hdown, tenTo_zero, Nat.mul_one, Nat.compare_eq_gt]
  exact h

theorem rounded_of_below {c : Nat} {e : Int} (h : leadingPower c e < lowestWorking) :
    leadingPower (rounded c e).1 (rounded c e).2 ≤ highestWorking := by
  have hhigh : highestWorking = 999999 := rfl
  have hlow : lowestWorking = -999999 := rfl
  rw [rounded, if_pos h]
  split
  · have hw : workingDigits = 28 := rfl
    have hleast : leastExponent = -1000026 := rfl
    have hdigits : digitCount c ≤ workingDigits + (leastExponent - e).toNat := by
      unfold leadingPower at h
      omega
    have hround := digitCount_le_of_le (shiftRound_le (lt_tenTo_of_digitCount hdigits))
    simp only [leadingPower]
    omega
  · simp only
    omega

theorem vast_of_rounded {c : Nat} {e : Int} (hr : leadingPower c e ≤ highestWorking)
    (h : highestWorking < leadingPower (rounded c e).1 (rounded c e).2) :
    compareMagnitude c e greatestCoefficient greatestExponent = .gt := by
  have hnb : ¬ leadingPower c e < lowestWorking :=
    fun hb => Int.not_le.2 h (rounded_of_below hb)
  rw [rounded, if_neg hnb] at h
  simp only at h
  generalize hk : digitCount c - workingDigits = k at h
  cases k with
  | zero =>
    -- Nothing is rounded off.
    rw [shiftRound_zero, Int.natCast_zero, Int.add_zero] at h
    omega
  | succ k =>
    -- The leading digit can only have moved by rounding up to a power of ten.
    have hdigits : c < tenTo (workingDigits + (k + 1)) := lt_tenTo_of_digitCount (by omega)
    have hle := shiftRound_le hdigits
    have hlong : workingDigits < digitCount (shiftRound c (k + 1)) := by
      unfold leadingPower at h hr
      omega
    have hne : shiftRound c (k + 1) ≠ 0 := by
      intro h0
      rw [h0] at hlong
      exact absurd hlong (by decide)
    have hup := Nat.le_antisymm hle (tenTo_le_of_digitCount hne hlong)
    have hcount := digitCount_le_of_le hle
    unfold leadingPower at h hr
    refine vast_of_digits ?_ ?_ (lt_of_shiftRound hdigits hup)
    · unfold leadingPower
      omega
    · unfold greatestExponent
      omega

theorem reduced_error {c : Nat} {e : Int} {error : ScaleError}
    (h : reduced c e = .error error) :
    error = .aboveRange ∧ compareMagnitude c e greatestCoefficient greatestExponent = .gt := by
  unfold reduced at h
  split at h
  · cases h
  · rename_i hc
    split at h
    case isTrue hl =>
      cases h
      exact ⟨rfl, vast_of_leadingPower hc hl⟩
    case isFalse hl =>
      simp only at h
      split at h
      · cases h
      · split at h
        case isTrue hr =>
          cases h
          exact ⟨rfl, vast_of_rounded (Int.not_lt.1 hl) hr⟩
        case isFalse => cases h

/-- A finite decimal has a scale unless it is vast, and that is all that can be wrong. -/
theorem scale_error {negative : Bool} {c : Nat} {e : Int} {error : ScaleError}
    (h : scale (.finite negative c e) = .error error) :
    error = .aboveRange ∧ IsVast (.finite negative c e) := by
  rw [scale] at h
  cases hr : reduced c e with
  | ok r =>
    rw [hr] at h
    cases h
  | error error' =>
    rw [hr] at h
    cases h
    exact reduced_error hr

end Scrutiny.Decimal
