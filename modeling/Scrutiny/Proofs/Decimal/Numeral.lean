import Scrutiny.Decimal.Text
import Scrutiny.Proofs.Text.Capitals

/-!
# Written decimals

A decimal is written as a sign, digits with a point among them, and a power of ten, of which all but
the digits may be left out. Blanks may stand around it and underscores anywhere. Such a text is read
as what it says, digit by digit, and no other text is read as a finite decimal; only exponents that
are far out are refused.
-/

set_option autoImplicit false

namespace Scrutiny.Decimal

open Text

inductive SignWord : Bool → List Char → Prop
  | bare : SignWord false []
  | plus : SignWord false ['+']
  | minus : SignWord true ['-']

inductive Mantissa : List Char → List Char → List Char → Prop
  | whole (w : List Char) : Mantissa w [] w
  | pointed (w f : List Char) : Mantissa w f (w ++ '.' :: f)

inductive PowerWord : Int → List Char → Prop
  | bare : PowerWord 0 []
  | marked (mark : Char) (hm : mark = 'e' ∨ mark = 'E') {n : Bool} {s ds : List Char}
      (hs : SignWord n s) (hne : ds ≠ []) (hd : ds.all isDigit = true) :
      PowerWord (signed n (positional ds)) (mark :: (s ++ ds))

/-- A sign, a coefficient and an exponent, with the text that says them. -/
inductive Numeral : Bool → Nat → Int → List Char → Prop
  | mk {n : Bool} {s w f m p : List Char} {k : Int} (hs : SignWord n s) (hm : Mantissa w f m)
      (hne : w ++ f ≠ []) (hd : (w ++ f).all isDigit = true) (hp : PowerWord k p) :
      Numeral n (positional (w ++ f)) (k - f.length) (s ++ (m ++ p))

/-- A numeral with underscores, between blanks. -/
def IsWritten (n : Bool) (c : Nat) (e : Int) (t : List Char) : Prop :=
  ∃ l m r, t = l ++ (m ++ r) ∧ Blanks l ∧ Blanks r ∧ Numeral n c e (m.filter (· != '_'))

theorem digitChar_facts : ∀ d : Fin 10, digitValue? (Nat.digitChar d) = some d.val ∧
    Nat.digitChar d ≠ '+' ∧ Nat.digitChar d ≠ '-' ∧ Nat.digitChar d ≠ '.' ∧
    Nat.digitChar d ≠ 'e' ∧ Nat.digitChar d ≠ '_' := by
  decide

theorem plain_ascii : ∀ n : Fin 128,
    digitValue? (plain (Char.ofNat n)) = digitValue? (Char.ofNat n) ∧
    (plain (Char.ofNat n) = '+' ↔ Char.ofNat n = '+') ∧
    (plain (Char.ofNat n) = '-' ↔ Char.ofNat n = '-') ∧
    (plain (Char.ofNat n) = '.' ↔ Char.ofNat n = '.') ∧
    (plain (Char.ofNat n) = 'e' ↔ Char.ofNat n = 'e' ∨ Char.ofNat n = 'E') := by
  decide +kernel

theorem toLower_of_not_ascii {c : Char} (h : 128 ≤ c.toNat) : c.toLower = c := by
  unfold Char.toLower
  rw [dif_neg]
  rintro ⟨-, hz⟩
  have hz : c.toNat ≤ 90 := hz
  omega

structure Kept (x c : Char) : Prop where
  digit : digitValue? x = digitValue? c
  plus : x = '+' ↔ c = '+'
  minus : x = '-' ↔ c = '-'
  point : x = '.' ↔ c = '.'
  mark : x = 'e' ↔ c = 'e' ∨ c = 'E'

theorem plain_kept (c : Char) : Kept (plain c) c := by
  by_cases h : c.toNat < 128
  · have ha := plain_ascii ⟨c.toNat, h⟩
    simp only [Char.ofNat_toNat] at ha
    exact ⟨ha.1, ha.2.1, ha.2.2.1, ha.2.2.2.1, ha.2.2.2.2⟩
  · have hne (x : Char) (hx : x.toNat < 128) : c ≠ x := by
      rintro rfl
      exact h hx
    have hplus := hne '+' (by decide)
    have hminus := hne '-' (by decide)
    have hpoint := hne '.' (by decide)
    have he := hne 'e' (by decide)
    have hE := hne 'E' (by decide)
    cases hd : digitValue? c with
    | none =>
      have hp : plain c = c := by
        rw [plain, hd]
        exact toLower_of_not_ascii (Nat.le_of_not_lt h)
      rw [hp]
      constructor <;> simp [hE]
    | some d =>
      have hp : plain c = Nat.digitChar d := by rw [plain, hd]
      have hf := digitChar_facts ⟨d, digitValue?_lt hd⟩
      rw [hp]
      constructor <;> simp_all

theorem isDigit_plain (c : Char) : isDigit (plain c) = isDigit c := by
  rw [isDigit, (plain_kept c).digit, isDigit]

theorem all_isDigit_plain (t : List Char) : (t.map plain).all isDigit = t.all isDigit := by
  rw [List.all_map]
  congr 1
  funext c
  exact isDigit_plain c

theorem positional_plain (t : List Char) : positional (t.map plain) = positional t := by
  unfold positional
  rw [List.foldl_map]
  congr 1
  funext n c
  rw [digitValue, (plain_kept c).digit, digitValue]

theorem asciiDigit_iff {c : Char} : c.isDigit = true ↔ 48 ≤ c.toNat ∧ c.toNat ≤ 57 := by
  simp [Char.isDigit, UInt32.le_iff_toNat_le]

theorem isDigit_of_ascii {c : Char} (h : c.isDigit = true) : isDigit c = true := by
  have hc := asciiDigit_iff.1 h
  simp [isDigit, digitValue?, digitZeros, hc.1, hc.2]

theorem digits_miss : ∀ z ∈ digitZeros, blankRanges.misses z (z + 9) = true := by decide

theorem isBlank_of_isDigit {c : Char} (h : isDigit c = true) : isBlank c = false := by
  obtain ⟨d, hd⟩ := Option.isSome_iff_exists.1 h
  obtain ⟨z, hz, -⟩ := Option.map_eq_some_iff.1 hd
  have hin := List.find?_some hz
  simp only [Bool.and_eq_true, decide_eq_true_eq] at hin
  exact Ranges.not_holds_of_misses (digits_miss z (List.mem_of_find?_eq_some hz)) hin.1 hin.2

theorem not_mem_digits {x : Char} {t : List Char} (hx : isDigit x = false)
    (ht : t.all isDigit = true) : x ∉ t := by
  intro hm
  rw [List.all_eq_true] at ht
  rw [ht x hm] at hx
  cases hx

theorem signOf_map (t : List Char) :
    signOf (t.map plain) = ((signOf t).1, (signOf t).2.map plain) := by
  cases t with
  | nil => rfl
  | cons c t =>
    have hf := plain_kept c
    by_cases hplus : c = '+'
    · subst hplus
      rfl
    · by_cases hminus : c = '-'
      · subst hminus
        rfl
      · have hp := mt hf.plus.1 hplus
        have hm := mt hf.minus.1 hminus
        simp [signOf, hplus, hminus, hp, hm]

theorem exists_signWord (t : List Char) : ∃ s, SignWord (signOf t).1 s ∧ t = s ++ (signOf t).2 := by
  unfold signOf
  split
  · exact ⟨_, .plus, rfl⟩
  · exact ⟨_, .minus, rfl⟩
  · exact ⟨_, .bare, rfl⟩

def Begins (t : List Char) : Prop := ∃ c r, t = c :: r ∧ (isDigit c = true ∨ c = '.')

theorem Begins.ne {t : List Char} (h : Begins t) {x : Char} {r : List Char}
    (hx : isDigit x = false) (hp : x ≠ '.') : t ≠ x :: r := by
  obtain ⟨c, r', rfl, hc | rfl⟩ := h
  · rintro he
    rw [(List.cons.inj he).1, hx] at hc
    cases hc
  · intro he
    exact hp (List.cons.inj he).1.symm

theorem begins_of_digits {ds : List Char} (hne : ds ≠ []) (hd : ds.all isDigit = true)
    (r : List Char) : Begins (ds ++ r) := by
  cases ds with
  | nil => exact absurd rfl hne
  | cons c ds =>
    rw [List.all_cons, Bool.and_eq_true] at hd
    exact ⟨c, ds ++ r, rfl, .inl hd.1⟩

theorem signOf_append {n : Bool} {s t : List Char} (hs : SignWord n s) (ht : Begins t) :
    signOf (s ++ t) = (n, t) := by
  cases hs with
  | bare =>
    have hplus (r : List Char) := ht.ne (r := r) (by decide : isDigit '+' = false) (by decide)
    have hminus (r : List Char) := ht.ne (r := r) (by decide : isDigit '-' = false) (by decide)
    unfold signOf
    split
    · rename_i r h
      exact absurd h (hplus r)
    · rename_i r h
      exact absurd h (hminus r)
    · rfl
  | plus => rfl
  | minus => rfl

theorem cutOnce_plain (t : List Char) : cutOnce '.' (t.map plain) =
    ((cutOnce '.' t).1.map plain, (cutOnce '.' t).2.map (List.map plain)) := by
  induction t with
  | nil => rfl
  | cons c t ih =>
    have hp := (plain_kept c).point
    by_cases hc : c = '.'
    · subst hc
      rfl
    · have hpc := mt hp.1 hc
      simp [cutOnce, hc, hpc, ih]

theorem number?_plain (n : Bool) (t : List Char) (k : Int) :
    number? n (t.map plain) k = number? n t k := by
  have hf : ((cutOnce '.' t).2.map (List.map plain)).getD [] =
      ((cutOnce '.' t).2.getD []).map plain := by
    cases (cutOnce '.' t).2 <;> rfl
  simp only [number?, cutOnce_plain, hf, ← List.map_append, all_isDigit_plain, positional_plain,
    List.isEmpty_map, List.length_map]

theorem exponent?_plain (t : List Char) : exponent? (t.map plain) = exponent? t := by
  have hs : isSignedDigits (t.map plain) = isSignedDigits t := by
    simp only [isSignedDigits, signOf_map, all_isDigit_plain, List.isEmpty_map]
  rw [exponent?, hs, signOf_map, positional_plain, exponent?]

theorem mantissa_cut (t : List Char) :
    Mantissa (cutOnce '.' t).1 ((cutOnce '.' t).2.getD []) t := by
  cases hc : cutOnce '.' t with
  | mk w o =>
    cases o with
    | none =>
      have hn : '.' ∉ t := (cutOnce_none_iff '.' t).1 (by rw [hc])
      rw [cutOnce_of_not_mem hn] at hc
      cases hc
      exact .whole t
    | some f =>
      rw [(cutOnce_some hc).1]
      exact .pointed w f

theorem cut_mantissa {w f t : List Char} (h : Mantissa w f t) (hw : '.' ∉ w) :
    (cutOnce '.' t).1 = w ∧ (cutOnce '.' t).2.getD [] = f := by
  cases h with
  | whole =>
    rw [cutOnce_of_not_mem hw]
    exact ⟨rfl, rfl⟩
  | pointed =>
    rw [cutOnce_append hw]
    exact ⟨rfl, rfl⟩

theorem digits_left {w f : List Char} (h : (w ++ f).all isDigit = true) :
    w.all isDigit = true := by
  rw [List.all_append, Bool.and_eq_true] at h
  exact h.1

theorem number?_mantissa {w f t : List Char} (hm : Mantissa w f t) (hne : w ++ f ≠ [])
    (hd : (w ++ f).all isDigit = true) (n : Bool) (k : Int) :
    number? n t k = bounded? n (positional (w ++ f)) (k - f.length) := by
  obtain ⟨hw, hf⟩ := cut_mantissa hm (not_mem_digits (by decide) (digits_left hd))
  simp only [number?, hw, hf]
  rw [if_neg]
  simp [hne, hd]

theorem mantissa_of_number? {n : Bool} {t : List Char} {k : Int} {d : Decimal}
    (h : number? n t k = some d) : ∃ w f, Mantissa w f t ∧ w ++ f ≠ [] ∧
      (w ++ f).all isDigit = true ∧ bounded? n (positional (w ++ f)) (k - f.length) = some d := by
  simp only [number?] at h
  split at h
  · cases h
  · rename_i hdigits
    simp only [Bool.or_eq_true, Bool.not_eq_true', not_or, Bool.not_eq_true,
      Bool.not_eq_false, List.isEmpty_eq_false_iff] at hdigits
    exact ⟨_, _, mantissa_cut t, hdigits.1, hdigits.2, h⟩

theorem exponent?_eq_some {t : List Char} {k : Int} : exponent? t = some k ↔
    ∃ n s ds, SignWord n s ∧ ds ≠ [] ∧ ds.all isDigit = true ∧ t = s ++ ds ∧
      signed n (positional ds) = k := by
  constructor
  · intro h
    unfold exponent? at h
    split at h
    · rename_i hd
      simp only [isSignedDigits, Bool.and_eq_true, Bool.not_eq_true',
        List.isEmpty_eq_false_iff] at hd
      obtain ⟨s, hs, ht⟩ := exists_signWord t
      exact ⟨_, s, _, hs, hd.1, hd.2, ht, Option.some.inj h⟩
    · cases h
  · rintro ⟨n, s, ds, hs, hne, hd, rfl, rfl⟩
    have hb := begins_of_digits hne hd []
    rw [List.append_nil] at hb
    rw [exponent?, isSignedDigits, signOf_append hs hb, if_pos]
    simp [hne, hd]

theorem Begins.plain {t : List Char} (h : Begins t) : Begins (t.map plain) := by
  obtain ⟨c, r, rfl, hc | rfl⟩ := h
  · exact ⟨_, _, rfl, .inl (by rw [isDigit_plain, hc])⟩
  · exact ⟨_, _, rfl, .inr rfl⟩

theorem Mantissa.begins {w f t : List Char} (h : Mantissa w f t) (hne : w ++ f ≠ [])
    (hd : (w ++ f).all isDigit = true) (r : List Char) : Begins (t ++ r) := by
  cases h with
  | whole =>
    rw [List.append_nil] at hne hd
    exact begins_of_digits hne hd r
  | pointed =>
    by_cases hw : w = []
    · subst hw
      exact ⟨_, _, rfl, .inr rfl⟩
    · rw [List.append_assoc]
      exact begins_of_digits hw (digits_left hd) _

theorem Mantissa.no_mark {w f t : List Char} (h : Mantissa w f t)
    (hd : (w ++ f).all isDigit = true) : 'e' ∉ t.map Decimal.plain := by
  have hmem (c : Char) (hc : c ∈ t) : c ∈ w ++ f ∨ c = '.' := by
    cases h with
    | whole => simpa using .inl hc
    | pointed =>
      rcases List.mem_append.1 hc with hc | hc
      · exact .inl (List.mem_append_left f hc)
      · rcases List.mem_cons.1 hc with hc | hc
        · exact .inr hc
        · exact .inl (List.mem_append_right w hc)
  intro hm
  obtain ⟨c, hc, he⟩ := List.mem_map.1 hm
  have hE := (plain_kept c).mark.1 he
  rcases hmem c hc with hc | rfl
  · rcases hE with rfl | rfl
    · exact not_mem_digits (by decide) hd hc
    · exact not_mem_digits (by decide) hd hc
  · exact absurd hE (by decide)

theorem unsigned?_parts {w f m p : List Char} {k : Int} (hm : Mantissa w f m) (hne : w ++ f ≠ [])
    (hd : (w ++ f).all isDigit = true) (hp : PowerWord k p) (n : Bool) :
    unsigned? n ((m ++ p).map plain) = bounded? n (positional (w ++ f)) (k - f.length) := by
  have hb := (hm.begins hne hd p).plain
  have hno := hm.no_mark hd
  unfold unsigned?
  split
  · rename_i h
    exact absurd h (hb.ne (by decide) (by decide))
  · rename_i h
    exact absurd h (hb.ne (by decide) (by decide))
  · rename_i h
    exact absurd h (hb.ne (by decide) (by decide))
  · rename_i h
    exact absurd h (hb.ne (by decide) (by decide))
  · cases hp with
    | bare =>
      rw [List.append_nil, cutOnce_of_not_mem hno]
      simp only
      rw [number?_plain, number?_mantissa hm hne hd]
    | marked mark hmark hs' hne' hd' =>
      have he : plain mark = 'e' := (plain_kept mark).mark.2 hmark
      have hx := exponent?_eq_some.2 ⟨_, _, _, hs', hne', hd', rfl, rfl⟩
      rw [List.map_append, List.map_cons, he, cutOnce_append hno]
      simp only
      rw [exponent?_plain, hx, Option.bind_some, number?_plain, number?_mantissa hm hne hd]

theorem parts_of_unsigned? {n n' : Bool} {c : Nat} {e : Int} {t : List Char}
    (h : unsigned? n (t.map plain) = some (.finite n' c e)) :
    ∃ w f m k p, t = m ++ p ∧ Mantissa w f m ∧ w ++ f ≠ [] ∧ (w ++ f).all isDigit = true ∧
      PowerWord k p ∧
      bounded? n (positional (w ++ f)) (k - f.length) = some (.finite n' c e) := by
  unfold unsigned? at h
  split at h
  · cases h
  · cases h
  · split at h <;> cases h
  · split at h <;> cases h
  · split at h
    · rename_i m hc
      have hn : 'e' ∉ t.map plain := (cutOnce_none_iff 'e' _).1 (by rw [hc])
      rw [cutOnce_of_not_mem hn] at hc
      cases hc
      rw [number?_plain] at h
      obtain ⟨w, f, hm, hne, hd, hb⟩ := mantissa_of_number? h
      exact ⟨w, f, t, 0, [], (List.append_nil t).symm, hm, hne, hd, .bare, hb⟩
    · rename_i m x hc
      obtain ⟨k, hk, hnum⟩ := Option.bind_eq_some_iff.1 h
      -- The mark and what stands on either side of it come from the text before it was made plain.
      obtain ⟨m', r, rfl, rfl, hr⟩ := List.map_eq_append_iff.1 (cutOnce_some hc).1
      obtain ⟨mark, x', rfl, hmark, rfl⟩ := List.map_eq_cons_iff.1 hr
      rw [exponent?_plain] at hk
      rw [number?_plain] at hnum
      obtain ⟨n'', s, ds, hs, hne', hd', rfl, rfl⟩ := exponent?_eq_some.1 hk
      obtain ⟨w, f, hm, hne, hd, hb⟩ := mantissa_of_number? hnum
      exact ⟨w, f, m', _, _, rfl, hm, hne, hd,
        .marked mark ((plain_kept mark).mark.1 hmark) hs hne' hd', hb⟩

theorem solid_digits {t : List Char} (h : t.all isDigit = true) : Solid t :=
  fun c hc => isBlank_of_isDigit (List.all_eq_true.1 h c hc)

theorem SignWord.solid {n : Bool} {s : List Char} (h : SignWord n s) : Solid s := by
  cases h <;> decide

theorem Mantissa.solid {w f t : List Char} (h : Mantissa w f t)
    (hd : (w ++ f).all isDigit = true) : Solid t := by
  have hs := solid_append.1 (solid_digits hd)
  cases h with
  | whole => exact hs.1
  | pointed => exact solid_append.2 ⟨hs.1, solid_cons.2 ⟨by decide, hs.2⟩⟩

theorem PowerWord.solid {k : Int} {p : List Char} (h : PowerWord k p) : Solid p := by
  cases h with
  | bare => decide
  | marked mark hm hs hne hd =>
    refine solid_cons.2 ⟨?_, solid_append.2 ⟨hs.solid, solid_digits hd⟩⟩
    rcases hm with rfl | rfl <;> decide

theorem Numeral.solid {n : Bool} {c : Nat} {e : Int} {t : List Char} (h : Numeral n c e t) :
    Solid t := by
  cases h with
  | mk hs hm hne hd hp =>
    exact solid_append.2 ⟨hs.solid, solid_append.2 ⟨hm.solid hd, hp.solid⟩⟩

theorem Numeral.ne_nil {n : Bool} {c : Nat} {e : Int} {t : List Char} (h : Numeral n c e t) :
    t ≠ [] := by
  cases h with
  | mk hs hm hne hd hp =>
    obtain ⟨x, r, hx, -⟩ := hm.begins hne hd _
    rw [hx]
    simp

theorem trim_of_numeral {n : Bool} {c : Nat} {e : Int} {l m r : List Char} (hl : Blanks l)
    (hr : Blanks r) (h : Numeral n c e (m.filter (· != '_'))) : trim (l ++ (m ++ r)) = m := by
  refine trim_of_solid hl hr ?_ fun x hx => ?_
  · rintro rfl
    exact h.ne_nil rfl
  · by_cases hu : x = '_'
    · rw [hu]
      decide
    · exact h.solid x (List.mem_filter.2 ⟨hx, by simp [hu]⟩)

def InRange (c : Nat) (e : Int) : Prop := leadingPower c e ≤ highestPower ∧ lowestExponent ≤ e

theorem bounded?_eq_some {n n' : Bool} {c c' : Nat} {e e' : Int} :
    bounded? n c e = some (.finite n' c' e') ↔ (n = n' ∧ c = c' ∧ e = e') ∧ InRange c e := by
  unfold bounded? InRange
  split
  · rename_i h
    simp [h]
  · rename_i h
    constructor
    · intro hb
      cases hb
    · rintro ⟨-, hr⟩
      exact absurd hr h

theorem read?_of_isWritten {n : Bool} {c : Nat} {e : Int} {t : List Char}
    (h : IsWritten n c e t) : read? t = bounded? n c e := by
  obtain ⟨l, m, r, rfl, hl, hr, hnum⟩ := h
  unfold read?
  simp only [signOf_map]
  rw [trim_of_numeral hl hr hnum]
  generalize m.filter (· != '_') = t at hnum
  cases hnum with
  | mk hs hm hne hd hp =>
    rw [signOf_append hs (hm.begins hne hd _)]
    simp only
    rw [unsigned?_parts hm hne hd hp]

theorem isWritten_of_read? {n : Bool} {c : Nat} {e : Int} {t : List Char}
    (h : read? t = some (.finite n c e)) : IsWritten n c e t ∧ InRange c e := by
  unfold read? at h
  simp only [signOf_map] at h
  obtain ⟨s, hs, ht⟩ := exists_signWord ((trim t).filter (· != '_'))
  obtain ⟨w, f, m, k, p, hmp, hm, hne, hd, hp, hb⟩ := parts_of_unsigned? h
  obtain ⟨⟨hn, rfl, rfl⟩, hrange⟩ := bounded?_eq_some.1 hb
  obtain ⟨l, r, hl, hr, htrim⟩ := exists_trim t
  refine ⟨⟨l, trim t, r, htrim, hl, hr, ?_⟩, hrange⟩
  rw [ht, hmp]
  rw [hn] at hs
  exact .mk hs hm hne hd hp

/-- A text is read as a finite decimal if it is written like one, and as no other. -/
theorem read?_eq_some_iff {n : Bool} {c : Nat} {e : Int} {t : List Char} :
    read? t = some (.finite n c e) ↔ IsWritten n c e t ∧ InRange c e := by
  constructor
  · exact isWritten_of_read?
  · rintro ⟨hw, hrange⟩
    rw [read?_of_isWritten hw]
    exact bounded?_eq_some.2 ⟨⟨rfl, rfl, rfl⟩, hrange⟩

theorem isWritten_of_isSignedDigits {t : List Char} (h : isSignedDigits t = true) :
    IsWritten (signOf t).1 (positional (signOf t).2) 0 t := by
  simp only [isSignedDigits, Bool.and_eq_true, Bool.not_eq_true', List.isEmpty_eq_false_iff] at h
  obtain ⟨s, hs, ht⟩ := exists_signWord t
  have hnum : Numeral (signOf t).1 (positional (signOf t).2) 0 t := by
    have hm := Numeral.mk (f := []) hs (.whole (signOf t).2) (by simp [h.1]) (by simp [h.2]) .bare
    simpa [← ht] using hm
  have hsign : '_' ∉ s := by
    generalize (signOf t).1 = n at hs
    cases hs <;> decide
  have hmem : '_' ∉ t := by
    rw [ht, List.mem_append, not_or]
    exact ⟨hsign, not_mem_digits (by decide) h.2⟩
  refine ⟨[], t, [], by simp, blanks_nil, blanks_nil, ?_⟩
  rwa [List.filter_eq_self.2]
  intro x hx
  have hne : x ≠ '_' := fun he => hmem (he ▸ hx)
  simp [hne]

end Scrutiny.Decimal
