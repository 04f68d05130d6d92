import Mathlib.Order.Bounds.Defs
import Scrutiny.Proofs.Decimal.Quantity

/-!
# Digits after the point

The scale of a decimal is that of the number it stands for: zeros at the end make no difference,
neither in the coefficient nor for the rounding. What is rounded is the question. Up to the working
number of digits, and down to the least exponent, the scale is the least number of places with
which the number can be written; beyond that it is less, unless the number is whole.
-/

set_option autoImplicit false

namespace Scrutiny.Decimal

open Text

section
variable {c d n k : Nat} {e f : Int}

theorem digitCount_mul_ten (h : c ≠ 0) : digitCount (c * 10) = digitCount c + 1 := by
  have hle : 10 ≤ c * 10 := by omega
  rw [digitCount, naturalText, Nat.toDigits_of_base_le (by decide) hle, List.length_append,
    Nat.mul_div_cancel c (by decide)]
  rfl

theorem leadingPower_mul_ten (h : c ≠ 0) (e : Int) :
    leadingPower (c * 10) (e - 1) = leadingPower c e := by
  unfold leadingPower
  rw [digitCount_mul_ten h]
  omega

theorem shiftRound_mul_ten (n k : Nat) : shiftRound (n * 10) (k + 1) = shiftRound n k := by
  by_cases hn : n = 0
  · subst hn
    simp [shiftRound, tenTo_pos]
  · have hdiv : n * 10 / (tenTo k * 10) = n / tenTo k := Nat.mul_div_mul_right _ _ (by decide)
    have hmod : n * 10 % (tenTo k * 10) = n % tenTo k * 10 := Nat.mul_mod_mul_right _ _ _
    simp only [shiftRound, digitCount_mul_ten hn, tenTo_succ, hdiv, hmod,
      Nat.add_lt_add_iff_right]
    by_cases hk : digitCount n < k
    · simp [hk]
    · simp only [hk, if_false]
      by_cases hlow : 2 * (n % tenTo k) < tenTo k
      · rw [if_pos hlow, if_pos (by omega)]
      · rw [if_neg hlow, if_neg (by omega)]
        by_cases hhigh : tenTo k < 2 * (n % tenTo k)
        · rw [if_pos hhigh, if_pos (by omega)]
        · rw [if_neg hhigh, if_neg (by omega)]

theorem stripZeros_mul_ten (h : c ≠ 0) (fuel : Nat) (e : Int) :
    stripZeros (fuel + 1) (c * 10) (e - 1) = stripZeros fuel c e := by
  have hz : c * 10 ≠ 0 ∧ c * 10 % 10 = 0 := ⟨by omega, by omega⟩
  rw [stripZeros, if_pos hz, Nat.mul_div_cancel c (by decide), Int.sub_add_cancel]

theorem rounded_mul_ten (h : c ≠ 0) (e : Int) :
    rounded (c * 10) (e - 1) = rounded c e ∨
    rounded (c * 10) (e - 1) = (c * 10, e - 1) ∧ rounded c e = (c, e) := by
  unfold rounded
  rw [leadingPower_mul_ten h, digitCount_mul_ten h]
  by_cases hl : leadingPower c e < lowestWorking
  · simp only [if_pos hl]
    by_cases he : e < leastExponent
    · have hk : (leastExponent - (e - 1)).toNat = (leastExponent - e).toNat + 1 := by omega
      left
      rw [if_pos he, if_pos (by omega), hk, shiftRound_mul_ten]
    · by_cases heq : e = leastExponent
      · have hk : (leastExponent - (e - 1)).toNat = 0 + 1 := by omega
        left
        rw [if_neg he, if_pos (by omega), hk, shiftRound_mul_ten, shiftRound_zero, heq]
      · right
        exact ⟨by rw [if_neg (by omega)], by rw [if_neg he]⟩
  · simp only [if_neg hl]
    by_cases hd : workingDigits ≤ digitCount c
    · have hk : digitCount c + 1 - workingDigits = digitCount c - workingDigits + 1 := by omega
      left
      rw [hk, shiftRound_mul_ten]
      congr 1
      omega
    · have hk : digitCount c + 1 - workingDigits = 0 := by omega
      have hk' : digitCount c - workingDigits = 0 := by omega
      right
      rw [hk, hk', shiftRound_zero, shiftRound_zero]
      simp

theorem reduced_mul_ten (h : c ≠ 0) (e : Int) : reduced (c * 10) (e - 1) = reduced c e := by
  have hc : c * 10 ≠ 0 := by omega
  unfold reduced
  rw [if_neg h, if_neg hc, leadingPower_mul_ten h]
  rcases rounded_mul_ten h e with hr | ⟨hr, hr'⟩
  · rw [hr]
  · rw [hr, hr']
    simp only [if_neg h, if_neg hc, leadingPower_mul_ten h, digitCount_mul_ten h,
      stripZeros_mul_ten h]

theorem reduced_mul_tenTo (c k : Nat) (e : Int) : reduced (c * tenTo k) (e - k) = reduced c e := by
  by_cases hc : c = 0
  · subst hc
    simp [reduced]
  · induction k with
    | zero => simp [tenTo_zero]
    | succ k ih =>
      have hne : c * tenTo k ≠ 0 := Nat.mul_ne_zero hc (Nat.ne_of_gt (tenTo_pos k))
      have he : e - (k + 1 : Nat) = e - k - 1 := by omega
      rw [tenTo_succ, ← Nat.mul_assoc, he, reduced_mul_ten hne, ih]

theorem reduced_congr (h : scaled c e = scaled d f) : reduced c e = reduced d f := by
  have finer {c d : Nat} {e f : Int} (hef : e ≤ f) (h : scaled c e = scaled d f) :
      reduced c e = reduced d f := by
    rw [scaled_on d hef, scaled_inj] at h
    have hr := reduced_mul_tenTo d (f - e).toNat f
    rwa [← h, show f - ((f - e).toNat : Int) = e by omega] at hr
  rcases Int.le_total e f with hef | hef
  · exact finer hef h
  · exact (finer hef h.symm).symm

end

theorem abs_toRat (n : Bool) (c : Nat) (e : Int) : |toRat (.finite n c e)| = scaled c e := by
  have h := scaled_nonneg c e
  cases n <;> simp [toRat, withSign, abs_of_nonneg h]

theorem scale_congr {n m : Bool} {c d : Nat} {e f : Int}
    (h : toRat (.finite n c e) = toRat (.finite m d f)) :
    scale (.finite n c e) = scale (.finite m d f) := by
  have hs : scaled c e = scaled d f := by rw [← abs_toRat n, ← abs_toRat m, h]
  rw [scale, scale, reduced_congr hs]

/-- A number that can be written with so many digits after the point. -/
def HasPlaces (x : ℚ) (k : Nat) : Prop := ∃ m : ℤ, x * 10 ^ k = m

theorem HasPlaces.mono {x : ℚ} {k j : Nat} (h : HasPlaces x k) (hkj : k ≤ j) : HasPlaces x j := by
  obtain ⟨m, hm⟩ := h
  refine ⟨m * 10 ^ (j - k), ?_⟩
  rw [← Nat.add_sub_cancel' hkj, pow_add, ← mul_assoc, hm]
  simp

theorem hasPlaces_abs {x : ℚ} {k : Nat} : HasPlaces |x| k ↔ HasPlaces x k := by
  rcases abs_choice x with h | h
  · rw [h]
  · rw [h]
    constructor
    · rintro ⟨m, hm⟩
      refine ⟨-m, ?_⟩
      rw [Int.cast_neg, ← hm]
      ring
    · rintro ⟨m, hm⟩
      refine ⟨-m, ?_⟩
      rw [Int.cast_neg, ← hm]
      ring

theorem hasPlaces_scaled {c : Nat} {e : Int} {k : Nat} :
    HasPlaces (scaled c e) k ↔ ∃ m : Nat, scaled c e = scaled m (-k) := by
  have hten : (10 : ℚ) ^ k ≠ 0 := by positivity
  have move (m : Nat) : scaled m (-k) * 10 ^ k = m := by
    rw [scaled, zpow_neg, zpow_natCast, mul_assoc, inv_mul_cancel₀ hten, mul_one]
  constructor
  · rintro ⟨m, hm⟩
    have hpos : (0 : ℚ) ≤ m := by
      rw [← hm]
      exact mul_nonneg (scaled_nonneg c e) (by positivity)
    have hcast : ((m.toNat : Nat) : ℚ) = m := by
      exact_mod_cast Int.toNat_of_nonneg (by exact_mod_cast hpos)
    refine ⟨m.toNat, mul_right_cancel₀ hten ?_⟩
    rw [hm, move, hcast]
  · rintro ⟨m, hm⟩
    refine ⟨m, ?_⟩
    rw [hm, move, Int.cast_natCast]

theorem hasPlaces_of_last {c : Nat} (hc : c % 10 ≠ 0) (e : Int) (k : Nat) :
    HasPlaces (scaled c e) k ↔ (-e).toNat ≤ k := by
  rw [hasPlaces_scaled]
  constructor
  · rintro ⟨m, hm⟩
    by_contra hk
    have he : e ≤ -(k : Int) := by omega
    rw [scaled_on m he, scaled_inj] at hm
    obtain ⟨j, hj⟩ : ∃ j, (-(k : Int) - e).toNat = j + 1 := ⟨(-(k : Int) - e).toNat - 1, by omega⟩
    rw [hj, tenTo_succ, ← Nat.mul_assoc] at hm
    omega
  · intro hk
    exact ⟨_, scaled_on c (by omega)⟩

theorem scaled_stripZeros (fuel c : Nat) (e : Int) :
    scaled (stripZeros fuel c e).1 (stripZeros fuel c e).2 = scaled c e := by
  induction fuel generalizing c e with
  | zero => rfl
  | succ fuel ih =>
    unfold stripZeros
    split
    · rename_i h
      have hc : c = c / 10 * tenTo 1 := by
        change c = c / 10 * 10
        omega
      rw [ih, hc, scaled_tenTo, ← hc]
      rfl
    · rfl

theorem le_stripZeros (fuel c : Nat) (e : Int) : e ≤ (stripZeros fuel c e).2 := by
  induction fuel generalizing c e with
  | zero => exact Int.le_refl e
  | succ fuel ih =>
    unfold stripZeros
    split
    · have := ih (c / 10) (e + 1)
      omega
    · exact Int.le_refl e

theorem stripZeros_last {fuel c : Nat} (h : c < tenTo fuel) (hc : c ≠ 0) (e : Int) :
    (stripZeros fuel c e).1 % 10 ≠ 0 := by
  induction fuel generalizing c e with
  | zero =>
    rw [tenTo_zero] at h
    omega
  | succ fuel ih =>
    unfold stripZeros
    split
    · rename_i hz
      rw [tenTo_succ] at h
      exact ih (by omega) (by omega) (e + 1)
    · rename_i hz
      simpa [hc] using hz

/-- A number that can be written with the digits and the exponents of the working range. -/
def IsWorking (x : ℚ) : Prop :=
  ∃ (c : Nat) (e : Int), |x| = scaled c e ∧ c < tenTo workingDigits ∧ leastExponent ≤ e ∧
    e ≤ greatestExponent

section
variable {c : Nat} {e : Int}

theorem rounded_eq_or_lt (c : Nat) (e : Int) :
    (c < tenTo workingDigits ∧ leastExponent ≤ e) ∧ rounded c e = (c, e) ∨
    e < (rounded c e).2 := by
  have hleast : leastExponent = lowestWorking - (workingDigits - 1) := rfl
  have hw : workingDigits = 28 := rfl
  unfold rounded
  by_cases hl : leadingPower c e < lowestWorking
  · rw [if_pos hl]
    by_cases he : e < leastExponent
    · right
      rw [if_pos he]
      exact he
    · left
      unfold leadingPower at hl
      refine ⟨⟨lt_tenTo_of_digitCount ?_, Int.not_lt.1 he⟩, if_neg he⟩
      omega
  · rw [if_neg hl]
    by_cases hd : digitCount c ≤ workingDigits
    · left
      unfold leadingPower at hl
      refine ⟨⟨lt_tenTo_of_digitCount hd, by omega⟩, ?_⟩
      simp only [Nat.sub_eq_zero_of_le hd, shiftRound_zero]
      simp
    · right
      simp only
      omega

theorem leastExponent_le_rounded (c : Nat) (e : Int) : leastExponent ≤ (rounded c e).2 := by
  have hleast : leastExponent = lowestWorking - (workingDigits - 1) := rfl
  have hw : workingDigits = 28 := rfl
  unfold rounded
  by_cases hl : leadingPower c e < lowestWorking
  · rw [if_pos hl]
    split
    · exact Int.le_refl _
    · rename_i he
      exact Int.not_lt.1 he
  · rw [if_neg hl]
    unfold leadingPower at hl
    simp only
    omega

theorem rounded_working (hd : c < tenTo workingDigits) (hl : leastExponent ≤ e) :
    rounded c e = (c, e) := by
  have hcount : digitCount c ≤ workingDigits := (digitCount_le_iff (by decide)).2 hd
  simp only [rounded, if_neg (Int.not_lt.2 hl), Nat.sub_eq_zero_of_le hcount, shiftRound_zero]
  simp

theorem reduced_working (hc : c ≠ 0) (hd : c < tenTo workingDigits) (hl : leastExponent ≤ e)
    (hg : e ≤ greatestExponent) : reduced c e = .ok (stripZeros (digitCount c) c e) := by
  have hcount : digitCount c ≤ workingDigits := (digitCount_le_iff (by decide)).2 hd
  have hle : ¬ highestWorking < leadingPower c e := by
    unfold leadingPower
    unfold greatestExponent at hg
    omega
  simp only [reduced, if_neg hc, if_neg hle, rounded_working hd hl]

theorem reduced_ok {r : Nat × Int} (h : reduced c e = .ok r) :
    r = (0, 0) ∨
    r = stripZeros (digitCount (rounded c e).1) (rounded c e).1 (rounded c e).2 := by
  unfold reduced at h
  split at h
  · cases h
    exact .inl rfl
  · split at h
    · cases h
    · simp only at h
      split at h
      · cases h
        exact .inl rfl
      · split at h
        · cases h
        · cases h
          exact .inr rfl

theorem places_le_least {r : Nat × Int} (h : reduced c e = .ok r) :
    (-r.2).toNat ≤ (-leastExponent).toNat := by
  rcases reduced_ok h with rfl | rfl
  · exact Nat.zero_le _
  · have hr := leastExponent_le_rounded c e
    have hs := le_stripZeros (digitCount (rounded c e).1) (rounded c e).1 (rounded c e).2
    omega

theorem places_of_reduced {r : Nat × Int} (h : reduced c e = .ok r) :
    (-r.2).toNat ≤ (-e).toNat := by
  rcases reduced_ok h with rfl | rfl
  · exact Nat.zero_le _
  · have hs := le_stripZeros (digitCount (rounded c e).1) (rounded c e).1 (rounded c e).2
    rcases rounded_eq_or_lt c e with ⟨-, hr⟩ | hr
    · rw [hr] at hs ⊢
      omega
    · omega

theorem working_of_reduced {r : Nat × Int} {k : Nat} (h : reduced c (-k) = .ok r)
    (hk : (-r.2).toNat = k) (hpos : k ≠ 0) :
    c < tenTo workingDigits ∧ leastExponent ≤ -(k : Int) := by
  rcases reduced_ok h with rfl | rfl
  · exact absurd hk.symm hpos
  · have hs := le_stripZeros (digitCount (rounded c (-k)).1) (rounded c (-k)).1 (rounded c (-k)).2
    rcases rounded_eq_or_lt c (-k) with ⟨hw, -⟩ | hr
    · exact hw
    · omega

end

theorem scale_le_least {d : Decimal} {k : Nat} (h : d.scale = .ok k) :
    k ≤ (-leastExponent).toNat := by
  cases d with
  | finite n c e =>
    rw [scale] at h
    cases hr : reduced c e with
    | error error =>
      rw [hr] at h
      cases h
    | ok r =>
      rw [hr] at h
      obtain rfl := Except.ok.inj h
      exact places_le_least hr
  | infinite => cases h
  | undefined n s p => cases s <;> cases h

theorem scale_le {n : Bool} {c : Nat} {e : Int} {k j : Nat} (h : scale (.finite n c e) = .ok k)
    (hj : HasPlaces (toRat (.finite n c e)) j) : k ≤ j := by
  rw [← hasPlaces_abs, abs_toRat, hasPlaces_scaled] at hj
  obtain ⟨m, hm⟩ := hj
  rw [scale, reduced_congr hm] at h
  cases hr : reduced m (-j) with
  | error error =>
    rw [hr] at h
    cases h
  | ok r =>
    rw [hr] at h
    obtain rfl := Except.ok.inj h
    have := places_of_reduced hr
    simp only
    omega

theorem working_of_scale {n : Bool} {c : Nat} {e : Int} {k : Nat}
    (h : scale (.finite n c e) = .ok k) (hk : HasPlaces (toRat (.finite n c e)) k) :
    IsWorking (toRat (.finite n c e)) ∨ HasPlaces (toRat (.finite n c e)) 0 := by
  by_cases hpos : k = 0
  · right
    rwa [hpos] at hk
  · left
    rw [← hasPlaces_abs, abs_toRat, hasPlaces_scaled] at hk
    obtain ⟨m, hm⟩ := hk
    rw [scale, reduced_congr hm] at h
    cases hr : reduced m (-k) with
    | error error =>
      rw [hr] at h
      cases h
    | ok r =>
      rw [hr] at h
      have hw := working_of_reduced hr (Except.ok.inj h) hpos
      have hg : (0 : Int) ≤ greatestExponent := by decide
      exact ⟨m, -k, by rw [abs_toRat, hm], hw.1, hw.2, by omega⟩

/-- In the working range the scale is the least number of places. -/
theorem scale_working {n : Bool} {c : Nat} {e : Int} (h : IsWorking (toRat (.finite n c e))) :
    ∃ k, scale (.finite n c e) = .ok k ∧
      IsLeast {j | HasPlaces (toRat (.finite n c e)) j} k := by
  obtain ⟨m, u, hx, hd, hl, hg⟩ := h
  have hplaces (j : Nat) : HasPlaces (toRat (.finite n c e)) j ↔ HasPlaces (scaled m u) j := by
    rw [← hasPlaces_abs, hx]
  rw [abs_toRat] at hx
  by_cases hm : m = 0
  · subst hm
    refine ⟨0, by rw [scale, reduced_congr hx]; rfl, ?_, fun j _ => Nat.zero_le j⟩
    show HasPlaces _ 0
    rw [hplaces, scaled_zero]
    exact ⟨0, by simp⟩
  · have hr := reduced_working hm hd hl hg
    have hlast := stripZeros_last (lt_tenTo_of_digitCount (Nat.le_refl (digitCount m))) hm u
    refine ⟨_, by rw [scale, reduced_congr hx, hr]; rfl, ?_⟩
    have hneeded (j : Nat) : HasPlaces (toRat (.finite n c e)) j ↔
        (-(stripZeros (digitCount m) m u).2).toNat ≤ j := by
      rw [hplaces, ← scaled_stripZeros (digitCount m) m u, hasPlaces_of_last hlast]
    exact ⟨(hneeded _).2 (Nat.le_refl _), fun j hj => (hneeded j).1 hj⟩

end Scrutiny.Decimal
