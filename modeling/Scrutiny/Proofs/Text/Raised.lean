import Scrutiny.Proofs.Text.Capitals
import Scrutiny.Text.Digit

/-!
# Upper case once and again

What upper case gives is in upper case already, so that it changes a text once and then no more. It
makes no digits, and a text in upper case begins with a plain word only where the text itself spells
the word, in whatever case: of the letters beyond the first 128, those that become plain ones become
few of them.
-/

set_option autoImplicit false

namespace Scrutiny.Text

def CaseRow.places (r : CaseRow) : List Nat :=
  (List.range ((r.last - r.first) / r.step + 1)).map fun i => r.first + r.step * i

def raisable : List Nat := upperRows.flatMap CaseRow.places ++ upperExpansions.map Prod.fst

def raised : List Nat :=
  upperRows.flatMap (fun r => r.places.map fun (n : Nat) => ((n : Int) + r.shift).toNat) ++
    upperExpansions.flatMap Prod.snd

/-- A list of numbers as the bits of one, so that many can be compared at once. -/
def bitsOf (ns : List Nat) : Nat := ns.foldr (fun n bits => Nat.pow 2 n ||| bits) 0

theorem testBit_bitsOf (ns : List Nat) (n : Nat) : (bitsOf ns).testBit n = true ↔ n ∈ ns := by
  induction ns with
  | nil => simp [bitsOf]
  | cons m ns ih =>
    have hb : bitsOf (m :: ns) = 2 ^ m ||| bitsOf ns := rfl
    rw [hb, Nat.testBit_or, Bool.or_eq_true, ih, Nat.testBit_two_pow, decide_eq_true_eq,
      List.mem_cons]
    exact or_congr_left eq_comm

theorem bitsOf_apart : bitsOf raised &&& bitsOf raisable = 0 := by
  decide +kernel

theorem not_raisable_of_raised {n : Nat} (h : n ∈ raised) : n ∉ raisable := by
  intro hr
  have hb := congrArg (Nat.testBit · n) bitsOf_apart
  simp only [Nat.testBit_and, (testBit_bitsOf _ n).2 h, (testBit_bitsOf _ n).2 hr] at hb
  simp at hb

theorem upperRows_step : ∀ r ∈ upperRows, 0 < r.step := by decide +kernel

theorem mem_places {r : CaseRow} (hr : r ∈ upperRows) {n : Nat} (h : r.applies n = true) :
    n ∈ r.places := by
  have hs := upperRows_step r hr
  simp only [CaseRow.applies, Bool.and_eq_true, decide_eq_true_eq, beq_iff_eq] at h
  obtain ⟨⟨hf, hl⟩, hm⟩ := h
  have hd : r.step * ((n - r.first) / r.step) = n - r.first :=
    Nat.mul_div_cancel' (Nat.dvd_of_mod_eq_zero hm)
  have hle : (n - r.first) / r.step ≤ (r.last - r.first) / r.step :=
    Nat.div_le_div_right (by omega)
  refine List.mem_map.2 ⟨(n - r.first) / r.step, List.mem_range.2 (by omega), ?_⟩
  rw [hd]
  omega

theorem moved_upperRows (n : Nat) :
    moved upperRows n = n ∨ n ∈ raisable ∧ moved upperRows n ∈ raised := by
  unfold moved
  cases h : upperRows.find? fun r => r.applies n with
  | none => exact .inl rfl
  | some r =>
    have hr := List.mem_of_find?_eq_some h
    have ha := List.find?_some h
    have hn := mem_places hr ha
    refine .inr ⟨List.mem_append_left _ (List.mem_flatMap.2 ⟨r, hr, hn⟩), ?_⟩
    exact List.mem_append_left _ (List.mem_flatMap.2 ⟨r, hr, List.mem_map.2 ⟨n, hn, rfl⟩⟩)

theorem ascii_toUpper : ∀ n : Fin 128,
    upperChar (Char.ofNat n).toUpper = [(Char.ofNat n).toUpper] ∧
      ((Char.ofNat n).toUpper = Char.ofNat n ∨ 97 ≤ n.val ∧ n.val ≤ 122) := by
  decide

theorem lowercase_raisable {n : Nat} (hf : 97 ≤ n) (hl : n ≤ 122) : n ∈ raisable := by
  have hr : (⟨97, 122, 1, -32⟩ : CaseRow) ∈ upperRows := List.mem_cons_self
  refine List.mem_append_left _ (List.mem_flatMap.2 ⟨_, hr, mem_places hr ?_⟩)
  simp [CaseRow.applies, hf, hl, Nat.mod_one]

theorem upperChar_of_not_raisable {c : Char} (h : c.toNat ∉ raisable) : upperChar c = [c] := by
  unfold upperChar
  split
  · rename_i hc
    have ha := (ascii_toUpper ⟨c.toNat, hc⟩).2
    simp only [Char.ofNat_toNat] at ha
    rcases ha with ha | ⟨hf, hl⟩
    · rw [ha]
    · exact absurd (lowercase_raisable hf hl) h
  · split
    · rename_i ns hl
      exact absurd (List.mem_append_right _ (List.mem_map_of_mem (mem_of_lookup hl))) h
    · rcases moved_upperRows c.toNat with hn | ⟨hn, -⟩
      · rw [hn, Char.ofNat_toNat]
      · exact absurd hn h

theorem upperChar_of_raised {n : Nat} (h : n ∈ raised) :
    upperChar (Char.ofNat n) = [Char.ofNat n] := by
  rcases toNat_ofNat_cases n with hn | hn
  · exact upperChar_of_not_raisable (by rw [hn]; exact not_raisable_of_raised h)
  · have hz : Char.ofNat n = Char.ofNat 0 := Char.toNat_inj.1 hn
    rw [hz]
    rfl

theorem upperChar_of_mem {c x : Char} (h : x ∈ upperChar c) : upperChar x = [x] := by
  by_cases hr : upperChar c = [c]
  · rw [hr] at h
    rw [List.mem_singleton.1 h, hr]
  · unfold upperChar at h
    split at h
    · rename_i hc
      have ha := (ascii_toUpper ⟨c.toNat, hc⟩).1
      simp only [Char.ofNat_toNat] at ha
      rw [List.mem_singleton.1 h, ha]
    · rename_i hc
      split at h
      · rename_i ns hl
        obtain ⟨n, hn, rfl⟩ := List.mem_map.1 h
        exact upperChar_of_raised (List.mem_append_right _
          (List.mem_flatMap.2 ⟨_, mem_of_lookup hl, hn⟩))
      · rename_i hl
        rw [List.mem_singleton.1 h]
        rcases moved_upperRows c.toNat with hn | ⟨-, hn⟩
        · exact absurd (by simp [upperChar, hc, hl, hn, Char.ofNat_toNat]) hr
        · exact upperChar_of_raised hn

theorem upper_eq_self {t : List Char} (h : ∀ c ∈ t, upperChar c = [c]) : upper t = t := by
  induction t with
  | nil => rfl
  | cons c t ih =>
    obtain ⟨hc, ht⟩ := List.forall_mem_cons.1 h
    rw [upper_cons, hc, ih ht]
    rfl

theorem upper_upper (t : List Char) : upper (upper t) = upper t := by
  apply upper_eq_self
  intro x hx
  obtain ⟨c, -, hc⟩ := List.mem_flatMap.1 hx
  exact upperChar_of_mem hc

theorem trim_upper_trim (t : List Char) : trim (upper (trim t)) = upper (trim t) := by
  by_cases h : trim t = []
  · rw [h]
    rfl
  · have hu : upper (trim t) ≠ [] := fun e => h ((upper_eq_nil_iff _).1 e)
    have first : isBlank ((upper (trim t)).head hu) = false := by
      have hs := congrArg upper (List.cons_head_tail h)
      have hc := upperChar_ne_nil ((trim t).head h)
      simp only [← hs, upper_cons, List.head_append_of_ne_nil hc]
      exact solid_upperChar (trim_head h) _ (List.head_mem hc)
    have last : isBlank ((upper (trim t)).getLast hu) = false := by
      have hs := congrArg upper (List.dropLast_concat_getLast h)
      have hc := upperChar_ne_nil ((trim t).getLast h)
      have hg : upper [(trim t).getLast h] = upperChar ((trim t).getLast h) := by simp [upper]
      simp only [← hs, upper_append, hg, List.getLast_append_of_ne_nil _ hc]
      exact solid_upperChar (trim_getLast h) _ (List.getLast_mem hc)
    simpa using trim_eq blanks_nil blanks_nil hu first last

theorem upperExpansions_no_digit :
    ∀ e ∈ upperExpansions, ∀ n ∈ e.2, isDigit (Char.ofNat n) = false := by
  decide +kernel

theorem countP_upperChar_le (c : Char) : (upperChar c).countP isDigit ≤ 1 := by
  unfold upperChar
  split
  · exact List.countP_le_length
  · split
    · rename_i ns hl
      have hz : (ns.map Char.ofNat).countP isDigit = 0 := by
        rw [List.countP_eq_zero]
        intro x hx
        obtain ⟨n, hn, rfl⟩ := List.mem_map.1 hx
        simp [upperExpansions_no_digit _ (mem_of_lookup hl) n hn]
      omega
    · exact List.countP_le_length

theorem countP_upper_le (t : List Char) : (upper t).countP isDigit ≤ t.length := by
  induction t with
  | nil => exact Nat.le_refl 0
  | cons c t ih =>
    have hc := countP_upperChar_le c
    rw [upper_cons, List.countP_append, List.length_cons]
    omega

/-- A character that upper case begins with for no character beyond the first 128. -/
def IsOwn (a : Char) : Prop := 0 < a.toNat ∧ a.toNat < 128 ∧ a ∉ "AFHIJSTWY".toList

instance (a : Char) : Decidable (IsOwn a) := by
  unfold IsOwn
  infer_instance

theorem upperRows_leave : ∀ r ∈ upperRows, r.last < 128 ∨ 128 ≤ r.first + r.shift ∨
    r.first = r.last ∧ (r.first + r.shift = 73 ∨ r.first + r.shift = 83) := by
  decide +kernel

theorem upperExpansions_head : ∀ e ∈ upperExpansions, ∀ n ∈ e.2.head?, ¬ IsOwn (Char.ofNat n) := by
  decide +kernel

theorem not_isOwn_of_le {a : Char} (h : 128 ≤ a.toNat) : ¬ IsOwn a :=
  fun ho => Nat.not_lt.2 h ho.2.1

theorem upperChar_not_ascii {c : Char} (h : 128 ≤ c.toNat) :
    ∃ a s, upperChar c = a :: s ∧ ¬ IsOwn a := by
  unfold upperChar
  rw [if_neg (Nat.not_lt.2 h)]
  split
  · rename_i ns hl
    have hm := mem_of_lookup hl
    obtain ⟨n, ns, rfl⟩ := List.exists_cons_of_ne_nil (upperExpansions_miss _ hm).2.1
    exact ⟨_, _, rfl, upperExpansions_head _ hm n rfl⟩
  · refine ⟨_, _, rfl, ?_⟩
    rintro ⟨hpos, hlt, hno⟩
    rcases toNat_ofNat_cases (moved upperRows c.toNat) with hn | hn
    · rw [hn] at hlt
      rcases moved_cases upperRows c.toNat with hm | ⟨r, hr, hf, hl, hm⟩
      · omega
      · rcases upperRows_leave r hr with hlast | hfar | ⟨hone, hi | hs⟩
        · omega
        · omega
        · have hm' : moved upperRows c.toNat = 73 := by omega
          exact hno (by rw [hm']; decide)
        · have hm' : moved upperRows c.toNat = 83 := by omega
          exact hno (by rw [hm']; decide)
    · omega

theorem toUpper_of_not_ascii {c : Char} (h : 128 ≤ c.toNat) : c.toUpper = c := by
  unfold Char.toUpper
  rw [dif_neg]
  rintro ⟨-, hz⟩
  have hz : c.toNat ≤ 122 := hz
  omega

theorem prefix_upper_iff {w : List Char} (hw : ∀ a ∈ w, IsOwn a) (t : List Char) :
    w <+: upper t ↔ ∃ m r, t = m ++ r ∧ m.map Char.toUpper = w := by
  induction w generalizing t with
  | nil => exact iff_of_true List.nil_prefix ⟨[], t, rfl, rfl⟩
  | cons a w ih =>
    obtain ⟨ha, hw⟩ := List.forall_mem_cons.1 hw
    cases t with
    | nil =>
      refine iff_of_false (by simp [upper]) ?_
      rintro ⟨m, r, ht, hm⟩
      obtain rfl := (List.append_eq_nil_iff.1 ht.symm).1
      cases hm
    | cons c t =>
      have hsplit : (∃ m r, c :: t = m ++ r ∧ m.map Char.toUpper = a :: w) ↔
          c.toUpper = a ∧ ∃ m r, t = m ++ r ∧ m.map Char.toUpper = w := by
        constructor
        · rintro ⟨m, r, ht, hm⟩
          cases m with
          | nil => cases hm
          | cons d m =>
            rw [List.cons_append, List.cons.injEq] at ht
            rw [List.map_cons, List.cons.injEq] at hm
            exact ⟨ht.1 ▸ hm.1, m, r, ht.2, hm.2⟩
        · rintro ⟨hc, m, r, rfl, hm⟩
          exact ⟨c :: m, r, rfl, by rw [List.map_cons, hc, hm]⟩
      rw [hsplit, ← ih hw, upper_cons]
      by_cases hc : c.toNat < 128
      · have hu : upperChar c = [c.toUpper] := if_pos hc
        rw [hu, List.singleton_append, List.cons_prefix_cons]
        exact and_congr_left fun _ => eq_comm
      · have hc := Nat.not_lt.1 hc
        obtain ⟨x, s, hx, ho⟩ := upperChar_not_ascii hc
        rw [hx, List.cons_append, List.cons_prefix_cons, toUpper_of_not_ascii hc]
        refine iff_of_false (fun h => ho (h.1 ▸ ha)) fun h => not_isOwn_of_le hc (h.1 ▸ ha)

end Scrutiny.Text
