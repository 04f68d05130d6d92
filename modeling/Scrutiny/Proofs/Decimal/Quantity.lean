import Mathlib.Algebra.Order.Field.Power
import Mathlib.Algebra.Order.Field.Rat
import Mathlib.Order.Compare
import Mathlib.Tactic.Linarith
import Mathlib.Tactic.NormNum
import Mathlib.Tactic.Positivity
import Mathlib.Tactic.Ring
import Scrutiny.Proofs.Decimal.Range

/-!
# The numbers that decimals stand for

A finite decimal stands for a rational number, and many decimals for the same one. The order of
decimals is the order of these numbers, whatever the exponents and however many digits there are.
-/

set_option autoImplicit false

namespace Scrutiny.Decimal

def scaled (c : Nat) (e : Int) : ℚ := c * (10 : ℚ) ^ e

def withSign (negative : Bool) (x : ℚ) : ℚ := if negative then -x else x

/-- The number that a finite decimal stands for. -/
def toRat : Decimal → ℚ
  | .finite n c e => withSign n (scaled c e)
  | _ => 0

section
variable {c d : Nat} {e f : Int}

theorem ten_zpow_pos (e : Int) : (0 : ℚ) < (10 : ℚ) ^ e := zpow_pos (by norm_num) e

@[simp] theorem scaled_zero (e : Int) : scaled 0 e = 0 := by simp [scaled]

theorem scaled_lt_iff : scaled c e < scaled d e ↔ c < d := by
  unfold scaled
  rw [mul_lt_mul_iff_left₀ (ten_zpow_pos e)]
  exact Nat.cast_lt

theorem scaled_le_iff : scaled c e ≤ scaled d e ↔ c ≤ d := by
  unfold scaled
  rw [mul_le_mul_iff_left₀ (ten_zpow_pos e)]
  exact Nat.cast_le

theorem scaled_inj : scaled c e = scaled d e ↔ c = d := by
  rw [le_antisymm_iff, scaled_le_iff, scaled_le_iff, le_antisymm_iff]

theorem scaled_nonneg (c : Nat) (e : Int) : 0 ≤ scaled c e := by
  have h := ten_zpow_pos e
  unfold scaled
  positivity

theorem scaled_pos (h : c ≠ 0) : 0 < scaled c e := by
  rw [← scaled_zero e, scaled_lt_iff]
  omega

theorem scaled_tenTo (c k : Nat) (e : Int) : scaled (c * tenTo k) e = scaled c (e + k) := by
  have hk : ((tenTo k : Nat) : ℚ) = (10 : ℚ) ^ (k : Int) := by simp [tenTo]
  unfold scaled
  rw [Nat.cast_mul, hk, zpow_add₀ (by norm_num : (10 : ℚ) ≠ 0)]
  ring

theorem scaled_on (c : Nat) (h : f ≤ e) : scaled c e = scaled (c * tenTo (e - f).toNat) f := by
  rw [scaled_tenTo]
  congr 1
  omega

theorem le_scaled_of_leadingPower (h : c ≠ 0) : scaled 1 (leadingPower c e) ≤ scaled c e := by
  have hpos := digitCount_pos c
  have hle : e ≤ leadingPower c e := by
    unfold leadingPower
    omega
  have hk : (leadingPower c e - e).toNat = digitCount c - 1 := by
    unfold leadingPower
    omega
  rw [scaled_on 1 hle, scaled_le_iff, hk, Nat.one_mul]
  exact tenTo_le_of_digitCount h (by omega)

theorem scaled_lt_of_leadingPower (c : Nat) (e : Int) :
    scaled c e < scaled 1 (leadingPower c e + 1) := by
  have hle : e ≤ leadingPower c e + 1 := by
    unfold leadingPower
    omega
  have hk : (leadingPower c e + 1 - e).toNat = digitCount c := by
    unfold leadingPower
    omega
  rw [scaled_on 1 hle, scaled_lt_iff, hk, Nat.one_mul]
  exact lt_tenTo_of_digitCount (Nat.le_refl _)

theorem scaled_one_le (h : e ≤ f) : scaled 1 e ≤ scaled 1 f := by
  rw [scaled_on 1 h, scaled_le_iff, Nat.one_mul]
  exact tenTo_pos _

theorem scaled_lt_of_leading (hd : d ≠ 0) (h : leadingPower c e < leadingPower d f) :
    scaled c e < scaled d f :=
  calc scaled c e
      < scaled 1 (leadingPower c e + 1) := scaled_lt_of_leadingPower c e
    _ ≤ scaled 1 (leadingPower d f) := scaled_one_le h
    _ ≤ scaled d f := le_scaled_of_leadingPower hd

theorem compare_compares (c d : Nat) (e : Int) :
    (compare c d).Compares (scaled c e) (scaled d e) := by
  rcases Nat.lt_trichotomy c d with h | h | h
  · rw [Nat.compare_eq_lt.2 h]
    exact scaled_lt_iff.2 h
  · rw [Nat.compare_eq_eq.2 h]
    exact scaled_inj.2 h
  · rw [Nat.compare_eq_gt.2 h]
    exact scaled_lt_iff.2 h

theorem compareMagnitude_compares (c : Nat) (e : Int) (d : Nat) (f : Int) :
    (compareMagnitude c e d f).Compares (scaled c e) (scaled d f) := by
  unfold compareMagnitude
  by_cases h : c = 0 ∨ d = 0
  · rw [if_pos h]
    -- Zero is zero at every exponent.
    rcases h with rfl | rfl
    · rw [scaled_zero e, ← scaled_zero f]
      exact compare_compares 0 d f
    · rw [scaled_zero f, ← scaled_zero e]
      exact compare_compares c 0 e
  · rw [if_neg h]
    rw [not_or] at h
    rcases Int.lt_trichotomy (leadingPower c e) (leadingPower d f) with hl | hl | hl
    · rw [Int.compare_eq_lt.2 hl]
      exact scaled_lt_of_leading h.2 hl
    · rw [Int.compare_eq_eq.2 hl]
      have hc := scaled_on c (Int.min_le_left e f)
      have hd := scaled_on d (Int.min_le_right e f)
      rw [show (e - min e f).toNat = (e - f).toNat by omega] at hc
      rw [show (f - min e f).toNat = (f - e).toNat by omega] at hd
      rw [hc, hd]
      exact compare_compares _ _ _
    · rw [Int.compare_eq_gt.2 hl]
      exact scaled_lt_of_leading h.1 hl

theorem flip_compares {o : Ordering} {x y : ℚ} (negative : Bool) (h : o.Compares x y) :
    (Sign.flip negative o).Compares (withSign negative x) (withSign negative y) := by
  cases negative with
  | false => exact h
  | true =>
    cases o with
    | lt => exact neg_lt_neg h
    | eq => exact congrArg Neg.neg h
    | gt => exact neg_lt_neg h

theorem compare?_compares (n m : Bool) (c d : Nat) (e f : Int) :
    ∃ o, compare? (.finite n c e) (.finite m d f) = some o ∧
      o.Compares (toRat (.finite n c e)) (toRat (.finite m d f)) := by
  have zero (s : Bool) (k : Int) : withSign s (scaled 0 k) = 0 := by
    cases s <;> simp [withSign, scaled_zero]
  simp only [compare?, toRat]
  by_cases hc : c = 0 <;> by_cases hd : d = 0
  · subst hc hd
    exact ⟨.eq, by simp, by rw [zero, zero]; rfl⟩
  · subst hc
    refine ⟨Sign.flip m .lt, by simp [hd], ?_⟩
    rw [zero n, ← zero m f]
    refine flip_compares m ?_
    rw [scaled_zero]
    exact scaled_pos hd
  · subst hd
    refine ⟨Sign.flip n .gt, by simp [hc], ?_⟩
    rw [zero m, ← zero n e]
    refine flip_compares n ?_
    rw [scaled_zero]
    exact scaled_pos hc
  · by_cases hs : n = m
    · subst hs
      exact ⟨_, by simp [hc, hd], flip_compares n (compareMagnitude_compares c e d f)⟩
    · refine ⟨Sign.flip n .gt, by simp [hc, hd, hs], ?_⟩
      have hx : 0 < scaled c e := scaled_pos hc
      have hy : 0 < scaled d f := scaled_pos hd
      cases n <;> cases m <;> simp_all [Sign.flip, withSign, Ordering.Compares] <;> linarith

end

@[simp] theorem toRat_ofInt (n : Int) : (ofInt n).toRat = n := by
  unfold ofInt toRat withSign scaled
  by_cases h : n < 0
  · simp [h, Nat.cast_natAbs, abs_of_neg h]
  · simp [h, Nat.cast_natAbs, abs_of_nonneg (Int.not_lt.1 h)]

end Scrutiny.Decimal
