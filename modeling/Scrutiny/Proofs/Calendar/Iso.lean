import Scrutiny.Calendar.Iso
import Scrutiny.Proofs.Decimal.Numeral
import Scrutiny.Proofs.Decimal.Range

/-!
# Written dates

The standard notation of a date has four digits for the year and two each for the month and the day.
It is read as the date that it was written for, whichever it is of the years 1 to 9999: every part
has its full width, and no month looks like the mark of a week.
-/

set_option autoImplicit false

namespace Scrutiny

open Text

namespace Text

theorem utf8Size_of_isDigit {c : Char} (h : c.isDigit = true) : c.utf8Size = 1 := by
  have hc : c.val.toNat ≤ 127 := Nat.le_trans (Decimal.asciiDigit_iff.1 h).2 (by decide)
  exact Char.utf8Size_eq_one_iff.2 (UInt32.le_iff_toNat_le.2 hc)

theorem isDigit_of_mem_padded {k n : Nat} {c : Char} (h : c ∈ padded k n) : c.isDigit = true := by
  rcases List.mem_append.1 h with hz | hd
  · rw [List.eq_of_mem_replicate hz]
    rfl
  · exact Nat.isDigit_of_mem_toDigits (by decide) (by decide) hd

theorem length_padded {k n : Nat} (hk : 0 < k) (h : n < tenTo k) : (padded k n).length = k := by
  have hle : (naturalText n).length ≤ k := (Decimal.digitCount_le_iff hk).2 h
  rw [padded, List.length_append, List.length_replicate]
  omega

theorem ofDigitChars_padded (k n : Nat) : Nat.ofDigitChars 10 (padded k n) 0 = n := by
  rw [padded, Nat.ofDigitChars_append, Nat.ofDigitChars_replicate_zero, Nat.mul_zero, naturalText,
    Nat.ofDigitChars_toDigits (by decide) (by decide)]

end Text

namespace Calendar

theorem fixedDigits?_run {ds : List Char} (h : ∀ c ∈ ds, c.isDigit = true) (n : Nat)
    (r : List Char) :
    fixedDigits? ds.length n (ds ++ r) = some (Nat.ofDigitChars 10 ds n, r) := by
  induction ds generalizing n with
  | nil => rfl
  | cons c ds ih =>
    rw [List.forall_mem_cons] at h
    rw [List.length_cons, List.cons_append, fixedDigits?, if_pos h.1, ih h.2,
      Nat.ofDigitChars_cons]
    rfl

theorem fixedDigits?_padded {k n : Nat} (hk : 0 < k) (h : n < tenTo k) (r : List Char) :
    fixedDigits? k 0 (padded k n ++ r) = some (n, r) := by
  have hrun := fixedDigits?_run (fun c => isDigit_of_mem_padded (k := k) (n := n)) 0 r
  rwa [length_padded hk h, ofDigitChars_padded] at hrun

theorem byteLength_eq {t : List Char} (h : ∀ c ∈ t, c.utf8Size = 1) : byteLength t = t.length := by
  have hfold (n : Nat) : t.foldl (fun n c => n + c.utf8Size) n = n + t.length := by
    induction t generalizing n with
    | nil => rfl
    | cons c t ih =>
      rw [List.forall_mem_cons] at h
      rw [List.foldl_cons, h.1, ih h.2, List.length_cons]
      omega
  rw [byteLength, hfold, Nat.zero_add]

theorem daysInMonth_le (y m : Nat) : daysInMonth y m ≤ 31 := by
  grind [daysInMonth]

namespace Date

theorem read?_of_month {t r : List Char} {y : Nat} {c : Char} (hl : byteLength t = 10)
    (hy : fixedDigits? 4 0 t = some (y, '-' :: c :: r)) (hc : c ≠ 'W') :
    read? t = monthForm? true y (c :: r) := by
  simp [read?, hl, hy, hc]

variable (d : Date)

theorem bounds : d.year < tenTo 4 ∧ d.month < tenTo 2 ∧ d.day < tenTo 2 := by
  have h := d.valid
  have hdays := daysInMonth_le d.year d.month
  have hlast : lastYear = 9999 := rfl
  have htwo : tenTo 2 = 100 := rfl
  have hfour : tenTo 4 = 10000 := rfl
  simp only [isDate, Bool.and_eq_true, decide_eq_true_eq] at h
  omega

theorem iso_eq : d.iso = padded 4 d.year ++ ('-' :: (padded 2 d.month ++
    ('-' :: padded 2 d.day))) := by
  simp [iso]

theorem mem_iso {c : Char} (h : c ∈ d.iso) : c = '-' ∨ c.isDigit = true := by
  simp only [iso_eq, List.mem_append, List.mem_cons] at h
  rcases h with h | h | h | h | h
  · exact .inr (isDigit_of_mem_padded h)
  · exact .inl h
  · exact .inr (isDigit_of_mem_padded h)
  · exact .inl h
  · exact .inr (isDigit_of_mem_padded h)

theorem length_iso : d.iso.length = 10 := by
  obtain ⟨hy, hm, hd⟩ := d.bounds
  rw [iso_eq, List.length_append, List.length_cons, List.length_append, List.length_cons,
    length_padded (by decide) hy, length_padded (by decide) hm, length_padded (by decide) hd]

theorem byteLength_iso : byteLength d.iso = 10 := by
  rw [byteLength_eq, length_iso]
  intro c hc
  rcases d.mem_iso hc with rfl | h
  · rfl
  · exact utf8Size_of_isDigit h

theorem iso_ne_nil : d.iso ≠ [] := by
  intro h
  have := d.length_iso
  rw [h] at this
  cases this

theorem solid_iso : Solid d.iso := by
  intro c hc
  rcases d.mem_iso hc with rfl | h
  · decide
  · exact Decimal.isBlank_of_isDigit (Decimal.isDigit_of_ascii h)

theorem monthForm?_iso : monthForm? true d.year
    (padded 2 d.month ++ ('-' :: padded 2 d.day)) = some d := by
  obtain ⟨-, hm, hd⟩ := d.bounds
  have hday := fixedDigits?_padded (by decide) hd []
  rw [List.append_nil] at hday
  rw [monthForm?, fixedDigits?_padded (by decide) hm]
  simp [dropHyphen?, hday, of?_self]

theorem read?_iso : read? d.iso = some d := by
  obtain ⟨hy, hm, -⟩ := d.bounds
  have hyear := fixedDigits?_padded (by decide) hy ('-' :: (padded 2 d.month ++
    ('-' :: padded 2 d.day)))
  have hmonth := d.monthForm?_iso
  obtain ⟨c, m, hcm⟩ : ∃ c m, padded 2 d.month = c :: m :=
    List.exists_cons_of_length_pos (by rw [length_padded (by decide) hm]; decide)
  -- The month begins with a digit, so that no week is read.
  have hc : c ≠ 'W' := by
    rintro rfl
    have := isDigit_of_mem_padded (hcm ▸ List.mem_cons_self)
    cases this
  rw [← iso_eq] at hyear
  rw [hcm, List.cons_append] at hyear hmonth
  rw [read?_of_month d.byteLength_iso hyear hc, hmonth]

end Date
end Calendar
end Scrutiny
