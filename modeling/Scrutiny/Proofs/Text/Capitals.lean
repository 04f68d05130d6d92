import Scrutiny.Proofs.Text.Words
import Scrutiny.Text.LetterCase

/-!
# Upper case and the marks between letters

Blanks and the marks that lists are cut at have no case. Upper case keeps them where they are and
makes no new ones, though a letter may become several, so that it makes no difference whether a
text is cut before it is put in upper case or after.
-/

set_option autoImplicit false

namespace Scrutiny.Text

/-- Blanks, the comma, the colon, the semicolon and the equals sign. -/
def caseless : Ranges := blankRanges ++ [(44, 44), (58, 59), (61, 61)]

theorem caseless_of_isBlank {c : Char} (h : isBlank c = true) : caseless.holds c = true := by
  rw [isBlank, Ranges.holds_iff] at h
  obtain ⟨r, hr, hc⟩ := h
  exact (Ranges.holds_iff _ _).2 ⟨r, List.mem_append_left _ hr, hc⟩

def Ranges.misses (rs : Ranges) (first last : Nat) : Bool :=
  rs.all fun r => last < r.1 || r.2 < first

theorem Ranges.not_holds_of_misses {rs : Ranges} {first last : Nat}
    (h : rs.misses first last = true) {c : Char} (hf : first ≤ c.toNat) (hl : c.toNat ≤ last) :
    rs.holds c = false := by
  rw [← Bool.not_eq_true, Ranges.holds_iff]
  rintro ⟨r, hr, h₁, h₂⟩
  have hm := List.all_eq_true.1 h r hr
  simp only [Bool.or_eq_true, decide_eq_true_eq] at hm
  omega

theorem upperRows_miss : ∀ r ∈ upperRows, caseless.misses r.first r.last = true ∧
    caseless.misses (r.first + r.shift).toNat (r.last + r.shift).toNat = true := by
  decide +kernel

theorem upperExpansions_miss : ∀ e ∈ upperExpansions, caseless.misses e.1 e.1 = true ∧
    e.2 ≠ [] ∧ ∀ n ∈ e.2, caseless.holds (Char.ofNat n) = false := by
  decide

theorem caseless_ascii : ∀ n : Fin 128, caseless.holds (Char.ofNat n) = true ∨
    caseless.holds (Char.ofNat n).toUpper = true →
      (Char.ofNat n).toUpper = Char.ofNat n := by
  decide

theorem moved_cases (rows : List CaseRow) (n : Nat) :
    moved rows n = n ∨ ∃ r ∈ rows, r.first ≤ n ∧ n ≤ r.last ∧ moved rows n = (n + r.shift).toNat := by
  unfold moved
  cases h : rows.find? fun r => r.applies n with
  | none => exact .inl rfl
  | some r =>
    have ha := List.find?_some h
    simp only [CaseRow.applies, Bool.and_eq_true, decide_eq_true_eq] at ha
    exact .inr ⟨r, List.mem_of_find?_eq_some h, ha.1.1, ha.1.2, rfl⟩

theorem toNat_ofNat_cases (n : Nat) : (Char.ofNat n).toNat = n ∨ (Char.ofNat n).toNat = 0 := by
  by_cases h : n.isValidChar
  · left
    rw [Char.ofNat, dif_pos h]
    rfl
  · right
    rw [Char.ofNat, dif_neg h]
    rfl

theorem caseless_ofNat {first last n : Nat} (h : caseless.misses first last = true)
    (hf : first ≤ n) (hl : n ≤ last) : caseless.holds (Char.ofNat n) = false := by
  have hz : caseless.misses 0 0 = true := by decide
  rcases toNat_ofNat_cases n with hn | hn
  · exact Ranges.not_holds_of_misses h (by omega) (by omega)
  · exact Ranges.not_holds_of_misses hz (by omega) (by omega)

theorem mem_of_lookup {n : Nat} {ns : List Nat} (h : upperExpansions.lookup n = some ns) :
    (n, ns) ∈ upperExpansions := by
  obtain ⟨before, after, he, -⟩ := List.lookup_eq_some_iff.1 h
  rw [he]
  simp

theorem upperChar_caseless {c : Char} (hc : caseless.holds c = true) : upperChar c = [c] := by
  unfold upperChar
  split
  · rename_i h
    have ha := caseless_ascii ⟨c.toNat, h⟩
    simp only [Char.ofNat_toNat] at ha
    rw [ha (.inl hc)]
  · split
    · rename_i ns hl
      have hm := (upperExpansions_miss _ (mem_of_lookup hl)).1
      rw [Ranges.not_holds_of_misses hm (Nat.le_refl _) (Nat.le_refl _)] at hc
      cases hc
    · rcases moved_cases upperRows c.toNat with hn | ⟨r, hr, hf, hl, -⟩
      · rw [hn, Char.ofNat_toNat]
      · rw [Ranges.not_holds_of_misses (upperRows_miss r hr).1 hf hl] at hc
        cases hc

theorem eq_of_mem_upperChar {c x : Char} (h : x ∈ upperChar c) (hx : caseless.holds x = true) :
    x = c := by
  unfold upperChar at h
  split at h
  · rename_i hc
    obtain rfl := List.mem_singleton.1 h
    have ha := caseless_ascii ⟨c.toNat, hc⟩
    simp only [Char.ofNat_toNat] at ha
    exact ha (.inr hx)
  · split at h
    · rename_i ns hl
      obtain ⟨n, hn, rfl⟩ := List.mem_map.1 h
      have hm := (upperExpansions_miss _ (mem_of_lookup hl)).2.2 n hn
      rw [hx] at hm
      cases hm
    · obtain rfl := List.mem_singleton.1 h
      rcases moved_cases upperRows c.toNat with hn | ⟨r, hr, hf, hl, hn⟩
      · rw [hn, Char.ofNat_toNat]
      · rw [hn, caseless_ofNat (upperRows_miss r hr).2 (by omega) (by omega)] at hx
        cases hx

theorem upperChar_ne_nil (c : Char) : upperChar c ≠ [] := by
  unfold upperChar
  split
  · simp
  · split
    · rename_i ns hl
      simpa using (upperExpansions_miss _ (mem_of_lookup hl)).2.1
    · simp

theorem upper_cons (c : Char) (t : List Char) : upper (c :: t) = upperChar c ++ upper t := rfl

theorem upper_append (s t : List Char) : upper (s ++ t) = upper s ++ upper t :=
  List.flatMap_append

theorem upper_cons_caseless {c : Char} (hc : caseless.holds c = true) (t : List Char) :
    upper (c :: t) = c :: upper t := by
  rw [upper_cons, upperChar_caseless hc]
  rfl

theorem upper_eq_nil_iff (t : List Char) : upper t = [] ↔ t = [] := by
  cases t with
  | nil => simp [upper]
  | cons c t => simp [upper_cons, upperChar_ne_nil]

theorem mem_upper_iff {x : Char} (hx : caseless.holds x = true) (t : List Char) :
    x ∈ upper t ↔ x ∈ t := by
  rw [upper, List.mem_flatMap]
  constructor
  · rintro ⟨c, hc, h⟩
    rwa [eq_of_mem_upperChar h hx]
  · intro h
    exact ⟨x, h, by simp [upperChar_caseless hx]⟩

theorem solid_upper_iff (t : List Char) : Solid (upper t) ↔ Solid t := by
  constructor
  · intro h c hc
    rw [← Bool.not_eq_true]
    intro hb
    have hm := h c ((mem_upper_iff (caseless_of_isBlank hb) t).2 hc)
    rw [hb] at hm
    cases hm
  · intro h d hd
    rw [← Bool.not_eq_true]
    intro hb
    have hm := h d ((mem_upper_iff (caseless_of_isBlank hb) t).1 hd)
    rw [hb] at hm
    cases hm

theorem solid_upperChar {c : Char} (hc : isBlank c = false) : Solid (upperChar c) := by
  have h := (solid_upper_iff [c]).2 (by simpa [Solid] using hc)
  simpa [upper] using h

theorem wordsFrom_upper (held t : List Char) :
    wordsFrom (upper held.reverse).reverse (upper t) = (wordsFrom held t).map upper := by
  have hh : ∀ held : List Char, (upper held.reverse).reverse.isEmpty = held.isEmpty := by
    intro held
    cases held with
    | nil => rfl
    | cons c held => simp [upper_eq_nil_iff]
  induction t generalizing held with
  | nil =>
    simp only [upper, List.flatMap_nil, wordsFrom]
    rw [← upper, hh]
    cases held.isEmpty <;> simp
  | cons c t ih =>
    by_cases hc : isBlank c = true
    · have hw : wordsFrom [] (upper t) = (wordsFrom [] t).map upper := ih []
      rw [upper_cons_caseless (caseless_of_isBlank hc)]
      simp only [wordsFrom, hc, if_true, hh, hw]
      cases held.isEmpty <;> simp
    · rw [upper_cons, wordsFrom_solid (solid_upperChar (by simpa using hc)), wordsFrom, if_neg hc,
        ← ih (c :: held)]
      simp [upper]

theorem words_upper (t : List Char) : words (upper t) = (words t).map upper :=
  wordsFrom_upper [] t

theorem cutAt_upper {x : Char} (hx : caseless.holds x = true) (t : List Char) :
    cutAt x (upper t) = (cutAt x t).map upper := by
  induction t with
  | nil => rfl
  | cons c t ih =>
    by_cases hc : c = x
    · subst hc
      rw [upper_cons_caseless hx, cutAt, if_pos rfl, cutAt, if_pos rfl, ih]
      rfl
    · have hn : x ∉ upperChar c := fun h => hc (eq_of_mem_upperChar h hx).symm
      obtain ⟨p, ps, hp, ha⟩ := cutAt_append hn (upper t)
      obtain ⟨q, qs, hq⟩ := List.exists_cons_of_ne_nil (cutAt_ne_nil x t)
      rw [ih, hq] at hp
      obtain ⟨rfl, rfl⟩ := List.cons.inj hp
      rw [upper_cons, ha, cutAt, if_neg hc, hq]
      rfl

end Scrutiny.Text
