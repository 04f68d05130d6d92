import Mathlib.Data.List.Forall2
import Scrutiny.Proofs.Cron.Fields
import Scrutiny.Proofs.Cron.Spans

/-!
# How days of the week are written

The field for days of the week is a question mark or a list of stars, days, ranges of days, last
days and numbered days. How its letters and digits may be written is an alphabet. The alphabet that
is read has letters and digits beyond the first 128 characters; these apart, it is the plain one, so
that the fields that are taken are those of the plain alphabet and others that hold such a
character.
-/

set_option autoImplicit false

namespace Scrutiny.Cron

open Text

/-- Which characters stand for a capital letter, and which are digits of a step behind the first. -/
structure Alphabet where
  letter : Char → Char → Prop
  digit : Char → Bool

namespace Alphabet

def plain : Alphabet where
  letter l c := c.toLower = l.toLower
  digit := Char.isDigit

/-- Characters beyond the first 128 that stand for a letter when case is ignored: the long s, the
dotted capital I and the dotless small one. -/
def strays (l : Char) : List Char :=
  if l = 'S' then [Char.ofNat 0x17f]
  else if l = 'I' then [Char.ofNat 0x130, Char.ofNat 0x131]
  else []

def wide : Alphabet where
  letter l c := c.toLower = l.toLower ∨ c ∈ strays l
  digit := isDigit

variable (a : Alphabet)

/-- A day by its number from one, which is Sunday, or by its name. -/
inductive Day : List Char → Prop where
  | number {c : Char} (low : '1' ≤ c) (high : c ≤ '7') : Day [c]
  | name {n : String} {t : List Char} (known : n ∈ weekdayNames)
      (spelled : List.Forall₂ a.letter n.toList t) : Day t

inductive Item : List Char → Prop where
  /-- A star, a day or a range of days, with or without a step. -/
  | stepped {t : List Char} (h : Stepped a.Day (fun _ _ => True) (Counts a.digit) t) : Item t
  /-- The last day of a week. -/
  | last {c : Char} (h : a.letter 'L' c) : Item [c]
  /-- The last of its name in a month. -/
  | lastOf {d : List Char} {c : Char} (day : a.Day d) (h : a.letter 'L' c) : Item (d ++ [c])
  /-- The one of its name in one of the five weeks of a month. -/
  | numbered {d : List Char} {k : Char} (day : a.Day d) (low : '1' ≤ k) (high : k ≤ '5') :
      Item (d ++ ['#', k])

def Field (t : List Char) : Prop := t = ['?'] ∨ Lists ',' a.Item t

end Alphabet

/-- What is said of the characters of a list is decided one by one, and not by going through all
characters that there are. -/
instance (priority := 2000) decidableForallMem {P : Char → Prop} [DecidablePred P]
    (cs : List Char) : Decidable (∀ c ∈ cs, P c) :=
  List.decidableBAll P cs

def letters : List Char := 'L' :: weekdayNames.flatMap String.toList

theorem mem_letters {n : String} (hn : n ∈ weekdayNames) {l : Char} (hl : l ∈ n.toList) :
    l ∈ letters :=
  List.mem_cons_of_mem _ (List.mem_flatMap.2 ⟨n, hn, hl⟩)

theorem letters_plain : ∀ l ∈ letters, l = 'S' ∨ l = 'I' ∨ lowerChar l = l.toLower ∧
    IsPlain l.toLower ∧ sharedCase l.toLower = [] ∧ Alphabet.strays l = [] := by
  decide

theorem rows_miss : ∀ a ∈ [Char.ofNat 0x17f, Char.ofNat 0x131], ∀ r ∈ lowerRows,
    r.last + r.shift < a.toNat ∨ a.toNat < r.first + r.shift := by
  decide +kernel

theorem isLetter_iff_wide {l : Char} (hl : l ∈ letters) (c : Char) :
    isLetter l c = true ↔ Alphabet.wide.letter l c := by
  have hlong : lowerChar c = Char.ofNat 0x17f ↔ c = Char.ofNat 0x17f :=
    lowerChar_eq_self (by decide) (rows_miss _ (by decide)) (by decide) c
  have hdotless : lowerChar c = Char.ofNat 0x131 ↔ c = Char.ofNat 0x131 :=
    lowerChar_eq_self (by decide) (rows_miss _ (by decide)) (by decide) c
  rw [isLetter_iff_mem]
  rcases letters_plain l hl with rfl | rfl | ⟨hlow, hp, hs, hx⟩
  case inl =>
    have hlist : lowerChar 'S' :: sharedCase (lowerChar 'S') = ['s', Char.ofNat 0x17f] := by decide
    have hcase : 'S'.toLower = 's' := by decide
    have hplain : lowerChar c = 's' ↔ c.toLower = 's' := lowerChar_eq_iff (by decide) c
    simp [hlist, Alphabet.wide, Alphabet.strays, hcase, hplain, hlong]
  case inr.inl =>
    have hlist : lowerChar 'I' :: sharedCase (lowerChar 'I') = ['i', Char.ofNat 0x131] := by decide
    have hcase : 'I'.toLower = 'i' := by decide
    simp [hlist, Alphabet.wide, Alphabet.strays, hcase, lowerChar_eq_i, hdotless, or_assoc]
  case inr.inr => simp [hlow, hs, Alphabet.wide, hx, lowerChar_eq_iff hp]

theorem isWord_iff {letter : Char → Char → Prop} {w : List Char}
    (h : ∀ l ∈ w, ∀ c, isLetter l c = true ↔ letter l c) (t : List Char) :
    isWord w t = true ↔ List.Forall₂ letter w t := by
  induction w generalizing t with
  | nil => cases t <;> simp [isWord]
  | cons l w ih =>
    obtain ⟨hl, hw⟩ := List.forall_mem_cons.1 h
    cases t with
    | nil => simp [isWord]
    | cons c t => simp [isWord, hl, ih hw]

theorem isWeekday_iff (t : List Char) : isWeekday t = true ↔ Alphabet.wide.Day t := by
  have hlength : ∀ n ∈ weekdayNames, n.toList.length = 3 := by decide
  have hname : ∀ n ∈ weekdayNames,
      isWord n.toList t = true ↔ List.Forall₂ Alphabet.wide.letter n.toList t := fun n hn =>
    isWord_iff (fun l hl c => isLetter_iff_wide (mem_letters hn hl) c) t
  unfold isWeekday
  split
  case h_1 c =>
    rw [Bool.and_eq_true, decide_eq_true_eq, decide_eq_true_eq]
    constructor
    · intro h
      exact .number h.1 h.2
    · intro h
      cases h with
      | number low high => exact ⟨low, high⟩
      | name known spelled => cases (hlength _ known).symm.trans spelled.length_eq
  case h_2 t hne =>
    rw [List.any_eq_true]
    constructor
    · rintro ⟨n, hn, hw⟩
      exact .name hn ((hname n hn).1 hw)
    · intro h
      cases h with
      | number => exact absurd rfl (hne _)
      | name known spelled => exact ⟨_, known, (hname _ known).2 spelled⟩

namespace Alphabet
variable {a b : Alphabet} {t : List Char} {c : Char}

def Admits (a : Alphabet) (c : Char) : Prop :=
  (∃ l ∈ letters, a.letter l c) ∨ c.isDigit = true ∨ a.digit c = true ∨ c ∈ ['*', '-', '/', '#']

theorem letter_of_spelled {w : List Char} (h : List.Forall₂ a.letter w t) (hc : c ∈ t) :
    ∃ l ∈ w, a.letter l c := by
  induction h with
  | nil => cases hc
  | cons hl _ ih =>
    rcases List.mem_cons.1 hc with rfl | hc
    · exact ⟨_, List.mem_cons_self, hl⟩
    · obtain ⟨l, hm, hlc⟩ := ih hc
      exact ⟨l, List.mem_cons_of_mem _ hm, hlc⟩

theorem spelled_imp {w : List Char} (hw : ∀ c ∈ t, ∀ l ∈ w, a.letter l c → b.letter l c)
    (h : List.Forall₂ a.letter w t) : List.Forall₂ b.letter w t := by
  induction h with
  | nil => exact .nil
  | cons hl _ ih =>
    refine .cons (hw _ List.mem_cons_self _ List.mem_cons_self hl) (ih fun c hc l hm => ?_)
    exact hw c (List.mem_cons_of_mem _ hc) l (List.mem_cons_of_mem _ hm)

theorem Day.mem (h : a.Day t) (hc : c ∈ t) : (∃ l ∈ letters, a.letter l c) ∨ c.isDigit = true := by
  cases h with
  | number low high =>
    obtain rfl := List.mem_singleton.1 hc
    exact .inr (isDigit_of_le low (Char.le_trans high (by decide)))
  | name known spelled =>
    obtain ⟨l, hl, hlc⟩ := letter_of_spelled spelled hc
    exact .inl ⟨l, mem_letters known hl, hlc⟩

theorem Day.admits (h : a.Day t) (hc : c ∈ t) : a.Admits c :=
  (h.mem hc).imp_right .inl

theorem Item.admits (h : a.Item t) (hc : c ∈ t) : a.Admits c := by
  cases h with
  | stepped h =>
    rcases h.mem hc with ⟨d, hd, hc⟩ | ⟨n, hn, hc⟩ | hc
    · exact hd.admits hc
    · rcases hn.digits hc with hd | hd
      · exact .inr (.inl hd)
      · exact .inr (.inr (.inl hd))
    · exact .inr (.inr (.inr (List.mem_append_left ['#'] hc)))
  | last h =>
    obtain rfl := List.mem_singleton.1 hc
    exact .inl ⟨'L', List.mem_cons_self, h⟩
  | lastOf day h =>
    rcases List.mem_append.1 hc with hc | hc
    · exact day.admits hc
    · obtain rfl := List.mem_singleton.1 hc
      exact .inl ⟨'L', List.mem_cons_self, h⟩
  | numbered day low high =>
    rcases List.mem_append.1 hc with hc | hc
    · exact day.admits hc
    · rcases List.mem_cons.1 hc with rfl | hc
      · exact .inr (.inr (.inr (by decide)))
      · obtain rfl := List.mem_singleton.1 hc
        exact .inr (.inl (isDigit_of_le low (Char.le_trans high (by decide))))

def Extends (b a : Alphabet) (c : Char) : Prop :=
  (∀ l ∈ letters, a.letter l c → b.letter l c) ∧ (a.digit c = true → b.digit c = true)

theorem Day.imp (hb : ∀ c ∈ t, b.Extends a c) (h : a.Day t) : b.Day t := by
  cases h with
  | number low high => exact .number low high
  | name known spelled =>
    exact .name known (spelled_imp (fun c hc l hl => (hb c hc).1 l (mem_letters known hl)) spelled)

theorem Item.imp (hb : ∀ c ∈ t, b.Extends a c) (h : a.Item t) : b.Item t := by
  cases h with
  | stepped h =>
    refine .stepped (h.imp (fun d hd => Day.imp fun c hc => hb c (hd hc)) fun n hn hs => ?_)
    cases hs with
    | mk low high rest =>
      exact .mk low high fun c hc => (hb c (hn (List.mem_cons_of_mem _ hc))).2 (rest c hc)
  | last h => exact .last ((hb _ List.mem_cons_self).1 'L' List.mem_cons_self h)
  | lastOf day h =>
    refine .lastOf (day.imp fun c hc => hb c (List.mem_append_left _ hc)) ?_
    exact (hb _ (List.mem_append_right _ List.mem_cons_self)).1 'L' List.mem_cons_self h
  | numbered day low high =>
    exact .numbered (day.imp fun c hc => hb c (List.mem_append_left _ hc)) low high

theorem marks_unread : ∀ x ∈ [',', '-', '/', '#'], x.isDigit = false ∧ isDigit x = false ∧
    ∀ l ∈ letters, ¬ (x.toLower = l.toLower ∨ x ∈ strays l) := by
  decide

theorem Day.no_mark (h : wide.Day t) {x : Char} (hx : x ∈ [',', '-', '/', '#']) : x ∉ t := by
  obtain ⟨hd, -, hl⟩ := marks_unread x hx
  intro hm
  rcases h.mem hm with ⟨l, hin, hlx⟩ | hd'
  · exact hl l hin hlx
  · exact Bool.false_ne_true (hd.symm.trans hd')

theorem Item.no_comma (h : wide.Item t) : ',' ∉ t := by
  obtain ⟨hd, hs, hl⟩ := marks_unread ',' (by decide)
  intro hm
  rcases h.admits hm with ⟨l, hin, hlx⟩ | hd' | hs' | hc
  · exact hl l hin hlx
  · exact Bool.false_ne_true (hd.symm.trans hd')
  · exact Bool.false_ne_true (hs.symm.trans hs')
  · exact absurd hc (by decide)

end Alphabet

open Alphabet

theorem isWeekdayStep_iff (t : List Char) : isWeekdayStep t = true ↔ Counts isDigit t := by
  cases t with
  | nil => exact iff_of_false nofun nofun
  | cons c r =>
    simp only [isWeekdayStep, Bool.and_eq_true, decide_eq_true_eq, List.all_eq_true]
    constructor
    · rintro ⟨⟨low, high⟩, rest⟩
      exact .mk low high rest
    · rintro ⟨low, high, rest⟩
      exact ⟨⟨low, high⟩, rest⟩

theorem isWeekdaySpan_iff (t : List Char) : isWeekdaySpan t = true ↔
    Followed '-' wide.Day (fun d e => wide.Day d ∧ wide.Day e ∧ True) t := by
  have hdash : ∀ d, wide.Day d → '-' ∉ d := fun d hd => hd.no_mark (by decide)
  rw [isWeekdaySpan]
  split
  case h_1 d hc => rw [followed_of_cut_none hc, isWeekday_iff]
  case h_2 d e hc =>
    rw [followed_of_cut_some hdash (fun _ _ h => hdash _ h.1) hc, Bool.and_eq_true, isWeekday_iff,
      isWeekday_iff, and_true]

theorem isSteppedWeekday_iff (t : List Char) : isSteppedWeekday t = true ↔
    Stepped wide.Day (fun _ _ => True) (Counts wide.digit) t := by
  rw [stepped_iff fun d hd => hd.no_mark (by decide), Spans, isSteppedWeekday]
  rcases cutOnce '/' t with ⟨s, _ | n⟩
  · simp [isWeekdaySpan_iff]
  · simp [isWeekdaySpan_iff, isWeekdayStep_iff, wide]

theorem isLetter_L_iff (c : Char) : isLetter 'L' c = true ↔ wide.letter 'L' c :=
  isLetter_iff_wide List.mem_cons_self c

theorem isLastWeekday_iff (t : List Char) : isLastWeekday t = true ↔
    ∃ d c, t = d ++ [c] ∧ wide.Day d ∧ wide.letter 'L' c := by
  rw [isLastWeekday]
  rcases List.eq_nil_or_concat t with rfl | ⟨d, c, rfl⟩
  · simp
  · rw [List.concat_eq_append, List.getLast?_concat, List.dropLast_concat]
    simp only [Bool.and_eq_true, isLetter_L_iff, isWeekday_iff]
    constructor
    · rintro ⟨hc, hd⟩
      exact ⟨d, c, rfl, hd, hc⟩
    · rintro ⟨d', c', he, hd, hc⟩
      obtain ⟨rfl, hl⟩ := List.append_inj' he rfl
      obtain rfl := List.singleton_inj.1 hl
      exact ⟨hc, hd⟩

theorem isNumberedWeekday_iff (t : List Char) : isNumberedWeekday t = true ↔
    ∃ d k, t = d ++ ['#', k] ∧ wide.Day d ∧ '1' ≤ k ∧ k ≤ '5' := by
  rw [isNumberedWeekday]
  split
  case h_1 day k hc =>
    obtain ⟨rfl, hn⟩ := cutOnce_some hc
    simp only [Bool.and_eq_true, decide_eq_true_eq, isWeekday_iff]
    constructor
    · rintro ⟨⟨hd, low⟩, high⟩
      exact ⟨day, k, rfl, hd, low, high⟩
    · rintro ⟨d, k', he, hd, low, high⟩
      obtain ⟨rfl, hk⟩ := append_separator_inj hn (hd.no_mark (by decide)) he
      obtain rfl := List.singleton_inj.1 hk
      exact ⟨⟨hd, low⟩, high⟩
  case h_2 hne =>
    refine iff_of_false nofun ?_
    rintro ⟨d, k, rfl, hd, -⟩
    exact hne d k (cutOnce_append (hd.no_mark (by decide)) [k])

theorem isWeekdayItem_iff (t : List Char) : isWeekdayItem t = true ↔ wide.Item t := by
  have hlast : isWord ['L'] t = true ↔ ∃ c, t = [c] ∧ wide.letter 'L' c := by
    rw [isWord_iff fun l hl c => by rw [List.mem_singleton.1 hl, isLetter_L_iff]]
    simp [List.forall₂_cons_left_iff, and_comm]
  simp only [isWeekdayItem, Bool.or_eq_true, isSteppedWeekday_iff, hlast, isLastWeekday_iff,
    isNumberedWeekday_iff]
  constructor
  · rintro (((h | ⟨c, rfl, h⟩) | ⟨d, c, rfl, hd, h⟩) | ⟨d, k, rfl, hd, low, high⟩)
    · exact .stepped h
    · exact .last h
    · exact .lastOf hd h
    · exact .numbered hd low high
  · intro h
    cases h with
    | stepped h => exact .inl (.inl (.inl h))
    | last h => exact .inl (.inl (.inr ⟨_, rfl, h⟩))
    | lastOf day h => exact .inl (.inr ⟨_, _, rfl, day, h⟩)
    | numbered day low high => exact .inr ⟨_, _, rfl, day, low, high⟩

theorem takesWeekdays_iff (t : List Char) : takesWeekdays t = true ↔ wide.Field t := by
  rw [takesWeekdays, Bool.or_eq_true, decide_eq_true_eq, List.all_eq_true, Alphabet.Field,
    lists_iff fun _ h => h.no_comma]
  exact or_congr_right (forall₂_congr fun i _ => isWeekdayItem_iff i)

namespace Alphabet

def IsAscii (c : Char) : Prop := c.toNat < 128

instance (c : Char) : Decidable (IsAscii c) := inferInstanceAs (Decidable (c.toNat < 128))

variable {c : Char} {t : List Char}

theorem letters_ascii : ∀ l ∈ letters, IsAscii l.toLower ∧ ∀ c ∈ strays l, ¬ IsAscii c := by decide

theorem ascii_of_letter {l : Char} (hl : l ∈ letters) (h : plain.letter l c) : IsAscii c := by
  have hlow := (letters_ascii l hl).1
  by_contra hc
  have he : c = l.toLower := (Decimal.toLower_of_not_ascii (Nat.not_lt.1 hc)).symm.trans h
  exact hc (he ▸ hlow)

theorem isDigit_of_isAscii (hc : IsAscii c) (h : isDigit c = true) : c.isDigit = true := by
  have hzeros : ∀ z ∈ digitZeros, z = 48 ∨ 128 ≤ z := by decide
  obtain ⟨d, hd⟩ := Option.isSome_iff_exists.1 h
  obtain ⟨z, hz, -⟩ := Option.map_eq_some_iff.1 hd
  have hin := List.find?_some hz
  simp only [Bool.and_eq_true, decide_eq_true_eq] at hin
  have hzero := hzeros z (List.mem_of_find?_eq_some hz)
  have hlow : c.toNat < 128 := hc
  exact Decimal.asciiDigit_iff.2 (by omega)

theorem wide_extends (c : Char) : wide.Extends plain c :=
  ⟨fun _ _ h => .inl h, Decimal.isDigit_of_ascii⟩

theorem plain_extends (hc : IsAscii c) : plain.Extends wide c := by
  refine ⟨fun l hl h => ?_, isDigit_of_isAscii hc⟩
  rcases h with h | h
  · exact h
  · exact absurd hc ((letters_ascii l hl).2 c h)

theorem ascii_of_admits (h : plain.Admits c) : IsAscii c := by
  have hdigit : c.isDigit = true → IsAscii c := fun hd => by
    have hle := (Decimal.asciiDigit_iff.1 hd).2
    exact Nat.lt_of_le_of_lt hle (by decide)
  rcases h with ⟨l, hl, h⟩ | hd | hd | hm
  · exact ascii_of_letter hl h
  · exact hdigit hd
  · exact hdigit hd
  · have hmarks : ∀ c ∈ ['*', '-', '/', '#'], IsAscii c := by decide
    exact hmarks c hm

theorem Item.wide (h : plain.Item t) : wide.Item t := h.imp fun c _ => wide_extends c

/-- The plain lists are the lists that are read and have plain characters only. -/
theorem plain_lists_iff (t : List Char) :
    Lists ',' plain.Item t ↔ Lists ',' wide.Item t ∧ ∀ c ∈ t, IsAscii c := by
  have hcomma : IsAscii ',' := by decide
  constructor
  · intro h
    refine ⟨?_, fun c hc => ?_⟩
    · rw [lists_iff fun _ hi => hi.wide.no_comma] at h
      exact (lists_iff (fun _ hi => hi.no_comma) t).2 fun i hi => (h i hi).wide
    · rcases h.mem hc with rfl | ⟨i, hi, hc⟩
      · exact hcomma
      · exact ascii_of_admits (hi.admits hc)
  · rintro ⟨h, hascii⟩
    rw [lists_iff fun _ hi => hi.no_comma] at h
    refine (lists_iff (fun _ hi => hi.wide.no_comma) t).2 fun i hi => ?_
    exact (h i hi).imp fun c hc => plain_extends (hascii c ((sublist_of_mem_cutAt hi).subset hc))

theorem plain_field_iff (t : List Char) :
    plain.Field t ↔ wide.Field t ∧ ∀ c ∈ t, IsAscii c := by
  have hany : ∀ c ∈ ['?'], IsAscii c := by decide
  rw [Field, Field, plain_lists_iff, or_and_right]
  refine or_congr_left ⟨fun h => ⟨h, ?_⟩, fun h => h.1⟩
  rw [h]
  exact hany

end Alphabet

/-- The field for days of the week is taken if it is a question mark or a list of days in the wide
alphabet. The lists in the plain alphabet are those of them that have none but the first 128
characters. -/
theorem weekdays_listed (t : List Char) :
    (takesWeekdays t = true ↔ wide.Field t) ∧
      (plain.Field t ↔ takesWeekdays t = true ∧ ∀ c ∈ t, IsAscii c) := by
  refine ⟨takesWeekdays_iff t, ?_⟩
  rw [takesWeekdays_iff]
  exact plain_field_iff t

example : takesWeekdays "mon-Fri/2,L,6#3,sunL".toList = true := by decide +kernel

/-- A name with a long s is taken for Sunday, and the expression is valid. -/
theorem long_s_taken :
    let t := Char.ofNat 0x17f :: "UN".toList
    takesWeekdays t = true ∧ check ⟨1970, 2199⟩ ("0 0 12 ? * ".toList ++ t) = .valid ∧
      ¬ plain.Field t := by
  intro t
  refine ⟨by decide +kernel, by decide +kernel, fun h => ?_⟩
  exact absurd (((plain_field_iff t).1 h).2 _ List.mem_cons_self) (by decide)

end Scrutiny.Cron
