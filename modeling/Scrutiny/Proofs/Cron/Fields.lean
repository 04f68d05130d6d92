import Scrutiny.Cron.Check
import Scrutiny.Proofs.Text.Lowering
import Scrutiny.Proofs.Text.Words

/-!
# Cron expressions field by field

An expression is answered by its fields alone. The field for years is taken apart from the others,
item by item, and what has become a star when the days of the week and the special days of the month
were checked tells nothing about them any more, so that one stands for another.
-/

set_option autoImplicit false

namespace Scrutiny.Cron

open Text

theorem Years.takes_iff (ys : Years) (t : List Char) :
    ys.takes t = true ↔ ∀ item ∈ cutAt ',' t, ys.takesItem item = true := by
  rw [takes, List.all_eq_true]

theorem Years.takes_of_mem (ys : Years) {t item : List Char} (h : item ∈ cutAt ',' t) :
    ys.takes item = ys.takesItem item := by
  rw [takes, cutAt_of_not_mem (not_mem_of_mem_cutAt ',' t item h)]
  simp

theorem Years.takes_iff_items (ys : Years) (t : List Char) :
    ys.takes t = true ↔ ∀ item ∈ cutAt ',' t, ys.takes item = true := by
  rw [takes_iff]
  exact forall₂_congr fun item hm => by rw [ys.takes_of_mem hm]

def Years.Within (ys zs : Years) : Prop := zs.first ≤ ys.first ∧ ys.last ≤ zs.last

namespace Years.Within

variable {ys zs : Years} (hw : ys.Within zs)

include hw

theorem holds {y : Int} (h : ys.holds y = true) : zs.holds y = true := by
  simp only [Years.holds, Bool.and_eq_true, decide_eq_true_eq] at h ⊢
  exact ⟨Int.le_trans hw.1 h.1, Int.le_trans h.2 hw.2⟩

theorem takesSpan {t : List Char} (h : ys.takesSpan t = true) : zs.takesSpan t = true := by
  revert h
  unfold Years.takesSpan
  split
  · split
    · exact hw.holds
    · exact id
  · split
    · simp only [Bool.and_eq_true]
      exact fun h => ⟨⟨hw.holds h.1.1, hw.holds h.1.2⟩, h.2⟩
    · exact id

theorem takesItem {t : List Char} (h : ys.takesItem t = true) : zs.takesItem t = true := by
  simp only [Years.takesItem, Bool.and_eq_true, Bool.or_eq_true] at h ⊢
  exact ⟨h.1, h.2.imp_right hw.takesSpan⟩

theorem takes {t : List Char} (h : ys.takes t = true) : zs.takes t = true :=
  (zs.takes_iff t).2 fun item hm => hw.takesItem ((ys.takes_iff t).1 h item hm)

end Years.Within

theorem fullLower_toNat (c : Char) : Pattern.Fold.full.lower c.toNat = (lowerChar c).toNat := by
  have hv : c.toNat.isValidChar := c.valid
  simp only [Pattern.Fold.lower, if_pos hv, Char.ofNat_toNat]

theorem isLetter_iff_mem (letter c : Char) :
    isLetter letter c = true ↔ lowerChar c ∈ lowerChar letter :: sharedCase (lowerChar letter) := by
  simp [isLetter, fullLower_toNat, Pattern.Fold.family, Char.toNat_inj]

theorem isLetter_iff {letter : Char} (hp : IsPlain (lowerChar letter))
    (hk : sharedCase (lowerChar letter) = []) (c : Char) :
    isLetter letter c = true ↔ c.toLower = lowerChar letter := by
  rw [isLetter_iff_mem, hk, List.mem_singleton, lowerChar_eq_iff hp]

theorem isLetter_L (c : Char) : isLetter 'L' c = true ↔ c.toLower = 'l' :=
  isLetter_iff (by decide) (by decide) c

theorem isLetter_W (c : Char) : isLetter 'W' c = true ↔ c.toLower = 'w' :=
  isLetter_iff (by decide) (by decide) c

structure IsShort (n : List Char) : Prop where
  length : n.length = 1 ∨ n.length = 2
  digits : ∀ c ∈ n, isDigit c = true

theorem shortNumber?_of_isShort {n : List Char} (h : IsShort n) :
    shortNumber? n = some (positional n) :=
  if_pos ⟨h.length, List.all_eq_true.2 h.digits⟩

/-- How a special day of the month is written. -/
inductive MonthDay.Writes : MonthDay → List Char → Prop where
  | last {l : Char} : l.toLower = 'l' → Writes .last [l]
  | beforeLast {l : Char} {n : List Char} :
    l.toLower = 'l' → IsShort n → Writes (.beforeLast (positional n)) (l :: '-' :: n)
  | lastWeekday {l w : Char} : l.toLower = 'l' → w.toLower = 'w' → Writes .lastWeekday [l, w]
  | nearestWeekday {n : List Char} {w : Char} :
    IsShort n → w.toLower = 'w' → Writes (.nearestWeekday (positional n)) (n ++ [w])

theorem not_isLetter_of_isDigit {c : Char} (h : isDigit c = true) : isLetter 'L' c = false := by
  have hascii : ∀ n < 128, (Char.ofNat n).toLower = 'l' → isDigit (Char.ofNat n) = false := by
    decide
  rw [Bool.eq_false_iff, Ne, isLetter_L]
  intro hl
  by_cases hc : c.toNat < 128
  · have hd := hascii c.toNat hc
    rw [Char.ofNat_toNat, h] at hd
    cases hd hl
  · rw [Decimal.toLower_of_not_ascii (Nat.not_lt.1 hc)] at hl
    rw [hl] at hc
    exact hc (by decide)

theorem isWord_L_cons_cons (c d : Char) (t : List Char) : isWord ['L'] (c :: d :: t) = false := by
  simp [isWord]

theorem monthDay?_number {n : List Char} (h : IsShort n) {w : Char} (hw : w ≠ '-') :
    monthDay? (n ++ [w]) = nearest? (n ++ [w]) := by
  have hdash : ¬ isDigit '-' = true := by decide
  have hne : n ≠ [] := by
    rintro rfl
    simpa using h.length
  obtain ⟨d, r, rfl⟩ := List.exists_cons_of_ne_nil hne
  obtain ⟨hd, hr⟩ := List.forall_mem_cons.1 h.digits
  have hword : ∀ t, isWord ['L', 'W'] (d :: t) = false := fun t => by
    rw [isWord, not_isLetter_of_isDigit hd, Bool.false_and]
  -- what comes behind the first digit is a digit or the letter
  obtain ⟨c, s, hs, hc⟩ : ∃ c s, r ++ [w] = c :: s ∧ c ≠ '-' := by
    cases r with
    | nil => exact ⟨w, [], rfl, hw⟩
    | cons c r =>
      refine ⟨c, r ++ [w], rfl, ?_⟩
      rintro rfl
      exact hdash (hr _ List.mem_cons_self)
  have hcounted : ∀ l t, d :: c :: s = l :: '-' :: t → False := by
    rintro l t he
    cases he
    exact hc rfl
  rw [List.cons_append, hs, monthDay?, if_neg (by simp [isWord_L_cons_cons]),
    if_neg (by simp [hword])]
  exact hcounted

theorem monthDay?_of_writes {m : MonthDay} {t : List Char} (h : m.Writes t) :
    monthDay? t = some m := by
  cases h with
  | last hl => simp [monthDay?, isWord, isLetter_L, hl]
  | @beforeLast l n hl hn =>
    have hdash : isLetter 'W' '-' = false := by decide
    have hword : isWord ['L', 'W'] (l :: '-' :: n) = false := by simp [isWord, hdash]
    simp [monthDay?, isWord_L_cons_cons, hword, isLetter_L, hl, shortNumber?_of_isShort hn]
  | lastWeekday hl hw =>
    simp [monthDay?, isWord, isLetter_L, isLetter_W, hl, hw]
  | nearestWeekday hn hw =>
    rw [monthDay?_number hn]
    · simp [nearest?, isLetter_W, hw, shortNumber?_of_isShort hn]
    · rintro rfl
      exact absurd hw (by decide)

theorem MonthDay.Writes.ne_any {m : MonthDay} {t : List Char} (h : m.Writes t) : t ≠ ['?'] := by
  rintro rfl
  have hany : monthDay? ['?'] = none := by decide
  cases hany.symm.trans (monthDay?_of_writes h)

theorem commonMonthDay?_of_writes {m : MonthDay} {t : List Char} (h : m.Writes t) :
    commonMonthDay? t = if m.isPossible = true then some star else none := by
  rw [commonMonthDay?, if_neg h.ne_any, monthDay?_of_writes h]

def NamesWeekdays (t : List Char) : Prop := t ≠ ['?'] ∧ takesWeekdays t = true

section Six

variable (takesCommon : List (List Char) → Bool) (s m h mo : List Char)

theorem checkSix_weekdays (d : List Char) {v w : List Char} (hv : NamesWeekdays v)
    (hw : NamesWeekdays w) :
    checkSix takesCommon s m h d mo v = checkSix takesCommon s m h d mo w := by
  simp only [checkSix, hv.1, hv.2, hw.1, hw.2]

theorem checkSix_monthDays (w : List Char) {a b : MonthDay} {d e : List Char} (hd : a.Writes d)
    (he : b.Writes e) (hab : a.isPossible = b.isPossible) :
    checkSix takesCommon s m h d mo w = checkSix takesCommon s m h e mo w := by
  simp only [checkSix, hd.ne_any, he.ne_any, commonMonthDay?_of_writes hd,
    commonMonthDay?_of_writes he, hab]

theorem checkSix_impossible (w : List Char) {a : MonthDay} {d : List Char} (hd : a.Writes d)
    (ha : a.isPossible = false) : checkSix takesCommon s m h d mo w ≠ .valid := by
  simp only [checkSix, commonMonthDay?_of_writes hd, ha]
  split
  · exact nofun
  · exact nofun

end Six

theorem exists_six {fs : List (List Char)} (h : fs.length = 6) :
    ∃ s m h d mo w, fs = [s, m, h, d, mo, w] := by
  match fs, h with
  | [s, m, h, d, mo, w], _ => exact ⟨s, m, h, d, mo, w, rfl⟩

theorem length_take_six {fs : List (List Char)} (h : fs.length = 6 ∨ fs.length = 7) :
    (fs.take 6).length = 6 := by
  rw [List.length_take]
  omega

section Fields

variable (takesCommon : List (List Char) → Bool) (ys : Years)

theorem checkFields_eq {fs : List (List Char)} (h : fs.length = 6 ∨ fs.length = 7) :
    checkFields takesCommon ys fs =
      if (fs.drop 6).all ys.takes = true then checkFields takesCommon ys (fs.take 6)
      else .invalid "year field out of range" := by
  match fs, h with
  | [s, m, h, d, mo, w], _ => rfl
  | [s, m, h, d, mo, w, y], _ => simp [checkFields]

theorem checkFields_of_length {fs : List (List Char)} (h : ¬ (fs.length = 6 ∨ fs.length = 7)) :
    checkFields takesCommon ys fs = .invalid (fieldCountReason fs.length) := by
  unfold checkFields
  split
  · exact absurd (.inl rfl) h
  · exact absurd (.inr rfl) h
  · rfl

theorem checkFields_eq_valid_iff (fs : List (List Char)) :
    checkFields takesCommon ys fs = .valid ↔ (fs.length = 6 ∨ fs.length = 7) ∧
      (∀ y ∈ fs.drop 6, ys.takes y = true) ∧ checkFields takesCommon ys (fs.take 6) = .valid := by
  by_cases hl : fs.length = 6 ∨ fs.length = 7
  · rw [checkFields_eq takesCommon ys hl, and_iff_right hl, ← List.all_eq_true]
    split
    · rename_i hy
      exact (and_iff_right hy).symm
    · rename_i hy
      exact iff_of_false nofun fun h => hy h.1
  · rw [checkFields_of_length takesCommon ys hl]
    exact iff_of_false nofun fun h => hl h.1

/-- One field may stand for another if it may among six. -/
theorem checkFields_set {i : Nat} (hi : i < 6) {a b : List Char}
    (six : ∀ fs : List (List Char), fs.length = 6 → fs[i]? = some a →
      checkFields takesCommon ys (fs.set i b) = checkFields takesCommon ys fs)
    {fs : List (List Char)} (ha : fs[i]? = some a) :
    checkFields takesCommon ys (fs.set i b) = checkFields takesCommon ys fs := by
  by_cases hl : fs.length = 6 ∨ fs.length = 7
  · have hsix := six (fs.take 6) (length_take_six hl) (by rwa [List.getElem?_take_of_lt hi])
    rw [checkFields_eq takesCommon ys hl, checkFields_eq takesCommon ys (by simpa using hl),
      List.drop_set_of_lt hi, List.take_set, hsix]
  · rw [checkFields_of_length takesCommon ys hl,
      checkFields_of_length takesCommon ys (by simpa using hl), List.length_set]

theorem checkFields_within {ys zs : Years} (hw : ys.Within zs) {fs : List (List Char)}
    (h : checkFields takesCommon ys fs = .valid) : checkFields takesCommon zs fs = .valid := by
  obtain ⟨hl, hy, hsix⟩ := (checkFields_eq_valid_iff takesCommon ys fs).1 h
  refine (checkFields_eq_valid_iff takesCommon zs fs).2 ⟨hl, fun y hm => hw.takes (hy y hm), ?_⟩
  -- six fields are checked alike within any bounds
  obtain ⟨s, m, h, d, mo, w, he⟩ := exists_six (length_take_six hl)
  rw [he] at hsix ⊢
  exact hsix

theorem checkFields_years {fs : List (List Char)} (hl : fs.length = 6) (y : List Char) :
    checkFields takesCommon ys (fs ++ [y]) = .valid ↔ checkFields takesCommon ys fs = .valid ∧
      ∀ item ∈ cutAt ',' y, ys.takes item = true := by
  have hlength : (fs ++ [y]).length = 7 := by simp [hl]
  rw [checkFields_eq_valid_iff, and_iff_right (.inr hlength), List.drop_left' hl,
    List.take_left' hl, ← Years.takes_iff_items, and_comm]
  simp

theorem checkFields_items {fs : List (List Char)} (hl : fs.length = 6) {y z : List Char}
    (hi : ∀ item, item ∈ cutAt ',' y ↔ item ∈ cutAt ',' z) :
    checkFields takesCommon ys (fs ++ [y]) = checkFields takesCommon ys (fs ++ [z]) := by
  have htakes : ys.takes y = ys.takes z := by
    rw [Bool.eq_iff_iff, ys.takes_iff, ys.takes_iff]
    exact forall_congr' fun item => by rw [hi item]
  obtain ⟨s, m, h, d, mo, w, rfl⟩ := exists_six hl
  show (if ys.takes y then _ else _) = if ys.takes z then _ else _
  rw [htakes]

theorem checkFields_weekdays {v w : List Char} (hv : NamesWeekdays v) (hw : NamesWeekdays w)
    {fs : List (List Char)} (hf : fs[5]? = some v) :
    checkFields takesCommon ys (fs.set 5 w) = checkFields takesCommon ys fs := by
  refine checkFields_set takesCommon ys (by decide) (fun six hl hx => ?_) hf
  obtain ⟨s, m, h, d, mo, x, rfl⟩ := exists_six hl
  obtain rfl := Option.some.inj hx
  exact checkSix_weekdays takesCommon s m h mo d hw hv

theorem checkFields_monthDays {a b : MonthDay} {d e : List Char} (hd : a.Writes d)
    (he : b.Writes e) (hab : a.isPossible = b.isPossible) {fs : List (List Char)}
    (hf : fs[3]? = some d) :
    checkFields takesCommon ys (fs.set 3 e) = checkFields takesCommon ys fs := by
  refine checkFields_set takesCommon ys (by decide) (fun six hl hx => ?_) hf
  obtain ⟨s, m, h, x, mo, w, rfl⟩ := exists_six hl
  obtain rfl := Option.some.inj hx
  exact checkSix_monthDays takesCommon s m h mo w he hd hab.symm

theorem checkFields_impossible {a : MonthDay} {d : List Char} (hd : a.Writes d)
    (ha : a.isPossible = false) {fs : List (List Char)} (hf : fs[3]? = some d) :
    checkFields takesCommon ys fs ≠ .valid := by
  intro hv
  obtain ⟨hl, -, hsix⟩ := (checkFields_eq_valid_iff takesCommon ys fs).1 hv
  have hday : (fs.take 6)[3]? = some d := by rwa [List.getElem?_take_of_lt (by decide)]
  obtain ⟨s, m, h, x, mo, w, he⟩ := exists_six (length_take_six hl)
  rw [he] at hsix hday
  obtain rfl := Option.some.inj hday
  exact checkSix_impossible takesCommon s m h mo w hd ha hsix

end Fields

/-- What the fields of an expression tell a check within bounds for years, each by itself. -/
structure FieldByField (check : Years → List Char → Check) : Prop where
  /-- Every text falls into fields, which may be spaced in any way. -/
  spacing : ∀ t, ∃ fs, Spaced fs t ∧ ∀ ys u, Spaced fs u → check ys t = check ys u
  /-- A seventh field adds that each of its items is taken by itself. -/
  years : ∀ ys fs y t u, fs.length = 6 → Spaced (fs ++ [y]) t → Spaced fs u →
    (check ys t = .valid ↔ check ys u = .valid ∧ ∀ item ∈ cutAt ',' y, ys.takes item = true)
  /-- The items may stand in any order and more than once. -/
  items : ∀ ys fs y z t u, fs.length = 6 → (∀ item, item ∈ cutAt ',' y ↔ item ∈ cutAt ',' z) →
    Spaced (fs ++ [y]) t → Spaced (fs ++ [z]) u → check ys t = check ys u
  /-- What is valid stays so when more years are allowed. -/
  bounds : ∀ ys zs t, ys.Within zs → check ys t = .valid → check zs t = .valid
  /-- Days of the week may stand for any others. -/
  weekdays : ∀ ys fs v w t u, NamesWeekdays v → NamesWeekdays w → fs[5]? = some v →
    Spaced fs t → Spaced (fs.set 5 w) u → check ys u = check ys t
  /-- A special day of the month that is possible may stand for any other. -/
  monthDays : ∀ ys fs a b d e t u, MonthDay.Writes a d → MonthDay.Writes b e →
    a.isPossible = true → b.isPossible = true → fs[3]? = some d →
    Spaced fs t → Spaced (fs.set 3 e) u → check ys u = check ys t
  /-- One that is impossible is never valid. -/
  impossible : ∀ ys fs a d t, MonthDay.Writes a d → a.isPossible = false → fs[3]? = some d →
    Spaced fs t → check ys t ≠ .valid

theorem checkWith_of_spaced (takesCommon : List (List Char) → Bool) (ys : Years)
    {fs : List (List Char)} {t : List Char} (h : Spaced fs t) :
    checkWith takesCommon ys t = checkFields takesCommon ys fs := by
  rw [checkWith, h.words_eq]

/-- Whatever the common fields are checked with, an expression is checked field by field. -/
theorem checkWith_fieldByField (takesCommon : List (List Char) → Bool) :
    FieldByField (checkWith takesCommon) where
  spacing t := by
    refine ⟨words t, spaced_iff.2 rfl, fun ys u hu => ?_⟩
    rw [checkWith_of_spaced takesCommon ys hu, checkWith]
  years ys fs y t u hl ht hu := by
    rw [checkWith_of_spaced takesCommon ys ht, checkWith_of_spaced takesCommon ys hu]
    exact checkFields_years takesCommon ys hl y
  items ys fs y z t u hl hi ht hu := by
    rw [checkWith_of_spaced takesCommon ys ht, checkWith_of_spaced takesCommon ys hu]
    exact checkFields_items takesCommon ys hl hi
  bounds ys zs t hw h := checkFields_within takesCommon hw h
  weekdays ys fs v w t u hv hw hf ht hu := by
    rw [checkWith_of_spaced takesCommon ys ht, checkWith_of_spaced takesCommon ys hu]
    exact checkFields_weekdays takesCommon ys hv hw hf
  monthDays ys fs a b d e t u hd he ha hb hf ht hu := by
    rw [checkWith_of_spaced takesCommon ys ht, checkWith_of_spaced takesCommon ys hu]
    exact checkFields_monthDays takesCommon ys hd he (ha.trans hb.symm) hf
  impossible ys fs a d t hd ha hf ht := by
    rw [checkWith_of_spaced takesCommon ys ht]
    exact checkFields_impossible takesCommon ys hd ha hf

theorem fieldByField_of_fifteenth :
    let check := checkWith takesFields
    let ys : Years := ⟨1970, 2199⟩
    check ys "0 0 12 15W * ?".toList = .valid ∧
      check ys "0  0 12 l-3 *\t?".toList = .valid ∧
      check ys "0 0 12 15W * ? 2030,2024".toList = check ys "0 0 12 15W * ? 2024,2030".toList ∧
      check ys "0 0 12 32w * ?".toList ≠ .valid := by
  intro check ys
  have h := checkWith_fieldByField takesFields
  have hvalid : check ys "0 0 12 15W * ?".toList = .valid := by decide +kernel
  have fifteenth : (MonthDay.nearestWeekday (positional ['1', '5'])).Writes (['1', '5'] ++ ['W']) :=
    .nearestWeekday ⟨by decide, List.all_eq_true.1 (by decide)⟩ (by decide)
  have third : (MonthDay.beforeLast (positional ['3'])).Writes ('l' :: '-' :: ['3']) :=
    .beforeLast (by decide) ⟨by decide, List.all_eq_true.1 (by decide)⟩
  have never : (MonthDay.nearestWeekday (positional ['3', '2'])).Writes (['3', '2'] ++ ['w']) :=
    .nearestWeekday ⟨by decide, List.all_eq_true.1 (by decide)⟩ (by decide)
  refine ⟨hvalid, ?_, ?_, ?_⟩
  · rw [← hvalid]
    exact h.monthDays ys _ _ _ _ _ _ _ fifteenth third rfl rfl rfl
      (spaced_iff.2 rfl) (spaced_iff.2 rfl)
  · refine h.items ys ["0".toList, "0".toList, "12".toList, "15W".toList, "*".toList, "?".toList]
      "2030,2024".toList "2024,2030".toList _ _ rfl (fun item => ?_)
      (spaced_iff.2 rfl) (spaced_iff.2 rfl)
    have hcut : cutAt ',' "2030,2024".toList = (cutAt ',' "2024,2030".toList).reverse := by decide
    rw [hcut, List.mem_reverse]
  · exact h.impossible ys _ _ _ _ never rfl rfl (spaced_iff.2 rfl)

end Scrutiny.Cron
