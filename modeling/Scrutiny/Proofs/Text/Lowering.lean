import Scrutiny.Proofs.Decimal.Numeral

/-!
# Lower case and plain letters

Lower case turns letters of all scripts, and two of them become the small letters i and k. All other
letters and digits of the first 128 characters come from themselves and their capitals alone, so that
a text which is made of those is spelled with them, in whatever case.
-/

set_option autoImplicit false

namespace Scrutiny.Text

def IsPlain (a : Char) : Prop := 0 < a.toNat ∧ a.toNat < 128 ∧ a ≠ 'i' ∧ a ≠ 'k'

instance (a : Char) : Decidable (IsPlain a) := by
  unfold IsPlain
  infer_instance

theorem lowerRows_leave : ∀ r ∈ lowerRows, r.last < 128 ∨ 128 ≤ r.first + r.shift ∨
    r.first = r.last ∧ r.first + r.shift = 107 := by
  decide +kernel

theorem not_isPlain_of_le {a : Char} (h : 128 ≤ a.toNat) : ¬ IsPlain a :=
  fun hp => Nat.not_lt.2 h hp.2.1

theorem not_isPlain_lowerChar {c : Char} (h : 128 ≤ c.toNat) : ¬ IsPlain (lowerChar c) := by
  rw [lowerChar, if_neg (Nat.not_lt.2 h)]
  split
  · decide
  · rintro ⟨hpos, hlt, -, hk⟩
    rcases toNat_ofNat_cases (moved lowerRows c.toNat) with hn | hn
    · rw [hn] at hlt
      rcases moved_cases lowerRows c.toNat with hm | ⟨r, hr, hf, hl, hm⟩
      · omega
      · rcases lowerRows_leave r hr with hlast | hfar | ⟨hone, hkelvin⟩
        · omega
        · omega
        · have hm' : moved lowerRows c.toNat = 107 := by omega
          exact hk (by rw [hm'])
    · omega

theorem lowerChar_eq_iff {a : Char} (ha : IsPlain a) (c : Char) :
    lowerChar c = a ↔ c.toLower = a := by
  by_cases hc : c.toNat < 128
  · rw [lowerChar, if_pos hc]
  · have hc := Nat.not_lt.1 hc
    rw [Decimal.toLower_of_not_ascii hc]
    exact iff_of_false (fun h => not_isPlain_lowerChar hc (h ▸ ha))
      fun h => not_isPlain_of_le hc (h ▸ ha)

/-- The small i is what the dotted capital I becomes, besides its own two cases. -/
theorem lowerChar_eq_i (c : Char) :
    lowerChar c = 'i' ↔ c.toLower = 'i' ∨ c = Char.ofNat 0x130 := by
  by_cases hc : c.toNat < 128
  · have hd : c ≠ Char.ofNat 0x130 := by
      rintro rfl
      exact absurd hc (by decide)
    rw [lowerChar, if_pos hc, or_iff_left hd]
  · have hc := Nat.not_lt.1 hc
    have hi : c ≠ 'i' := by
      rintro rfl
      exact absurd hc (by decide)
    rw [Decimal.toLower_of_not_ascii hc, or_iff_right hi, lowerChar, if_neg (Nat.not_lt.2 hc)]
    by_cases hd : c.toNat = 0x130
    · rw [if_pos hd, ← hd, Char.ofNat_toNat]
      simp
    · rw [if_neg hd]
      refine iff_of_false (fun h => ?_) fun h => hd (by rw [h]; rfl)
      have hm : (Char.ofNat (moved lowerRows c.toNat)).toNat = 105 := by rw [h]; rfl
      have hn := toNat_ofNat_cases (moved lowerRows c.toNat)
      rcases moved_cases lowerRows c.toNat with hs | ⟨r, hr, hf, hl, hs⟩
      · omega
      · rcases lowerRows_leave r hr with hlast | hfar | ⟨hone, hkelvin⟩ <;> omega

theorem lowerChar_eq_self {a : Char} (ha : 128 ≤ a.toNat)
    (hm : ∀ r ∈ lowerRows, r.last + r.shift < a.toNat ∨ a.toNat < r.first + r.shift)
    (hself : lowerChar a = a) (c : Char) : lowerChar c = a ↔ c = a := by
  have hascii : ∀ n < 128, (Char.ofNat n).toLower.toNat < 128 := by decide
  refine ⟨fun h => ?_, fun h => by rw [h, hself]⟩
  rw [lowerChar] at h
  split at h
  case isTrue hc =>
    have hlow := hascii c.toNat hc
    rw [Char.ofNat_toNat, h] at hlow
    omega
  split at h
  case isTrue =>
    subst h
    exact absurd ha (by decide)
  rcases moved_cases lowerRows c.toNat with hs | ⟨r, hr, hf, hl, hs⟩
  · rw [hs, Char.ofNat_toNat] at h
    exact h
  · have hmiss := hm r hr
    have hn := toNat_ofNat_cases (moved lowerRows c.toNat)
    rw [h] at hn
    omega

theorem lowerFrom_ascii {c : Char} (h : c.toNat < 128) (before r : List Char) :
    lowerFrom before (c :: r) = c.toLower :: lowerFrom (c :: before) r := by
  have hs : c.toNat ≠ 0x3a3 := by omega
  have hi : c.toNat ≠ 0x130 := by omega
  simp [lowerFrom, lowerChar, hs, hi, h]

theorem lowerFrom_not_ascii {c : Char} (h : 128 ≤ c.toNat) (before r : List Char) :
    ∃ a s, lowerFrom before (c :: r) = a :: s ∧ ¬ IsPlain a := by
  rw [lowerFrom]
  split
  · split
    · exact ⟨_, _, rfl, by decide⟩
    · exact ⟨_, _, rfl, by decide⟩
  split
  · exact ⟨_, _, rfl, by decide⟩
  · exact ⟨_, _, rfl, not_isPlain_lowerChar h⟩

theorem lowerFrom_eq_iff {w : List Char} (hw : ∀ a ∈ w, IsPlain a) (before t : List Char) :
    lowerFrom before t = w ↔ t.map Char.toLower = w := by
  induction t generalizing before w with
  | nil => rfl
  | cons c r ih =>
    rw [List.map_cons]
    cases w with
    | nil =>
      refine iff_of_false (fun h => ?_) (List.cons_ne_nil _ _)
      by_cases hc : c.toNat < 128
      · rw [lowerFrom_ascii hc] at h
        cases h
      · obtain ⟨a, s, hs, -⟩ := lowerFrom_not_ascii (Nat.not_lt.1 hc) before r
        cases hs.symm.trans h
    | cons a w =>
      rw [List.forall_mem_cons] at hw
      by_cases hc : c.toNat < 128
      · rw [lowerFrom_ascii hc, List.cons.injEq, List.cons.injEq, ih hw.2]
      · have hc := Nat.not_lt.1 hc
        obtain ⟨x, s, hs, hx⟩ := lowerFrom_not_ascii hc before r
        rw [hs, Decimal.toLower_of_not_ascii hc]
        refine iff_of_false (fun h => hx ?_) fun h => not_isPlain_of_le hc ?_
        · rw [(List.cons.inj h).1]
          exact hw.1
        · rw [(List.cons.inj h).1]
          exact hw.1

theorem lower_eq_iff {w : List Char} (hw : ∀ a ∈ w, IsPlain a) (t : List Char) :
    lower t = w ↔ t.map Char.toLower = w :=
  lowerFrom_eq_iff hw [] t

end Scrutiny.Text
