import Scrutiny.Text.Blank
import Scrutiny.Text.Pieces

/-!
# Blanks around texts

Trimming takes the blanks off both ends of a text and leaves what is between them, and the words of
a text are what stands between its blanks. Both are told from one way of writing the text: blanks,
a text without a blank, blanks.
-/

set_option autoImplicit false

namespace Scrutiny.Text

def Blanks (t : List Char) : Prop := ∀ c ∈ t, isBlank c = true

def Solid (t : List Char) : Prop := ∀ c ∈ t, isBlank c = false

instance (t : List Char) : Decidable (Blanks t) :=
  List.decidableBAll (fun c => isBlank c = true) t

instance (t : List Char) : Decidable (Solid t) :=
  List.decidableBAll (fun c => isBlank c = false) t

theorem blanks_nil : Blanks [] := by simp [Blanks]

theorem blanks_cons {c : Char} {t : List Char} :
    Blanks (c :: t) ↔ isBlank c = true ∧ Blanks t := List.forall_mem_cons

theorem solid_cons {c : Char} {t : List Char} :
    Solid (c :: t) ↔ isBlank c = false ∧ Solid t := List.forall_mem_cons

theorem solid_append {s t : List Char} : Solid (s ++ t) ↔ Solid s ∧ Solid t :=
  List.forall_mem_append

theorem trimStart_append {l : List Char} (hl : Blanks l) (t : List Char) :
    trimStart (l ++ t) = trimStart t :=
  List.dropWhile_append_of_pos hl

theorem trimStart_cons {c : Char} (hc : isBlank c = false) (t : List Char) :
    trimStart (c :: t) = c :: t := by
  simp [trimStart, hc]

theorem trimEnd_eq (t : List Char) : trimEnd t = (trimStart t.reverse).reverse := rfl

theorem exists_trimStart (t : List Char) : ∃ l, Blanks l ∧ t = l ++ trimStart t := by
  refine ⟨t.takeWhile isBlank, fun c hc => ?_, List.takeWhile_append_dropWhile.symm⟩
  exact (List.all_eq_true.1 List.all_takeWhile) c hc

theorem exists_trimEnd (t : List Char) : ∃ r, Blanks r ∧ t = trimEnd t ++ r := by
  obtain ⟨l, hl, ht⟩ := exists_trimStart t.reverse
  refine ⟨l.reverse, fun c hc => hl c (List.mem_reverse.1 hc), ?_⟩
  have hr := congrArg List.reverse ht
  simpa [trimEnd_eq] using hr

theorem exists_trim (t : List Char) :
    ∃ l r, Blanks l ∧ Blanks r ∧ t = l ++ (trim t ++ r) := by
  obtain ⟨l, hl, ht⟩ := exists_trimStart t
  obtain ⟨r, hr, hm⟩ := exists_trimEnd (trimStart t)
  refine ⟨l, r, hl, hr, ht.trans ?_⟩
  rw [trim, ← hm]

theorem trim_sublist (t : List Char) : (trim t).Sublist t := by
  obtain ⟨l, r, -, -, ht⟩ := exists_trim t
  have hm : (trim t).Sublist (l ++ (trim t ++ r)) :=
    (List.sublist_append_left _ _).trans (List.sublist_append_right _ _)
  rwa [← ht] at hm

theorem mem_of_mem_trim {c : Char} {t : List Char} (h : c ∈ trim t) : c ∈ t := by
  obtain ⟨l, r, -, -, ht⟩ := exists_trim t
  rw [ht]
  simp [h]

theorem trim_eq {l m r : List Char} (hl : Blanks l) (hr : Blanks r) (hm : m ≠ [])
    (first : isBlank (m.head hm) = false) (last : isBlank (m.getLast hm) = false) :
    trim (l ++ (m ++ r)) = m := by
  obtain ⟨c, s, rfl⟩ := List.exists_cons_of_ne_nil hm
  have hs : trimStart (l ++ (c :: s ++ r)) = c :: s ++ r :=
    (trimStart_append hl _).trans (trimStart_cons first _)
  have hne : (c :: s).reverse ≠ [] := by simp
  obtain ⟨d, u, hd⟩ := List.exists_cons_of_ne_nil hne
  have hlast : d = (c :: s).getLast hm := by
    rw [← List.head_reverse hne]
    simp [hd]
  have hrev : Blanks r.reverse := fun c hc => hr c (List.mem_reverse.1 hc)
  rw [trim, hs, trimEnd_eq, List.reverse_append, trimStart_append hrev, hd,
    trimStart_cons (by rw [hlast, last]), ← hd, List.reverse_reverse]

theorem trim_of_solid {l m r : List Char} (hl : Blanks l) (hr : Blanks r) (hm : m ≠ [])
    (h : Solid m) : trim (l ++ (m ++ r)) = m :=
  trim_eq hl hr hm (h _ (List.head_mem hm)) (h _ (List.getLast_mem hm))

theorem trimStart_head {t : List Char} (h : trimStart t ≠ []) :
    isBlank ((trimStart t).head h) = false := by
  exact List.head_dropWhile_not isBlank h

theorem trim_head {t : List Char} (h : trim t ≠ []) : isBlank ((trim t).head h) = false := by
  obtain ⟨r, -, hm⟩ := exists_trimEnd (trimStart t)
  have hs : trimStart t ≠ [] := by
    intro e
    exact h (by simp [trim, trimEnd, e])
  have hh := trimStart_head hs
  have he : (trimStart t).head hs = (trim t).head h := by
    have : (trimStart t).head? = (trim t).head? := by
      rw [hm, List.head?_append, ← trim, List.head?_eq_some_head h]
      rfl
    simpa [List.head?_eq_some_head hs, List.head?_eq_some_head h] using this
  rwa [he] at hh

theorem trim_getLast {t : List Char} (h : trim t ≠ []) :
    isBlank ((trim t).getLast h) = false := by
  have hr : trimStart (trimStart t).reverse ≠ [] := by
    intro e
    exact h (by simp [trim, trimEnd_eq, e])
  have hh := trimStart_head hr
  rw [← List.getLast_reverse (by simpa using hr)] at hh
  exact hh

theorem trim_eq_nil_iff {t : List Char} : trim t = [] ↔ Blanks t := by
  constructor
  · intro h
    obtain ⟨l, r, hl, hr, ht⟩ := exists_trim t
    rw [h, List.nil_append] at ht
    rw [ht]
    exact List.forall_mem_append.2 ⟨hl, hr⟩
  · intro h
    cases ht : trim t with
    | nil => rfl
    | cons c s =>
      have hne : trim t ≠ [] := by simp [ht]
      have hb := h _ (mem_of_mem_trim (List.head_mem hne))
      rw [trim_head hne] at hb
      cases hb

theorem trim_trim (t : List Char) : trim (trim t) = trim t := by
  by_cases h : trim t = []
  · rw [h]
    rfl
  · simpa using trim_eq blanks_nil blanks_nil h (trim_head h) (trim_getLast h)

theorem trim_append_blanks {r : List Char} (hr : Blanks r) (t : List Char) :
    trim (t ++ r) = trim t := by
  have hrev : Blanks r.reverse := fun c hc => hr c (List.mem_reverse.1 hc)
  by_cases ht : trimStart t = []
  · have hb : Blanks t := by
      obtain ⟨l, hl, hs⟩ := exists_trimStart t
      rwa [hs, ht, List.append_nil]
    rw [trim_eq_nil_iff.2 hb, trim_eq_nil_iff]
    exact List.forall_mem_append.2 ⟨hb, hr⟩
  · have hs : trimStart (t ++ r) = trimStart t ++ r := by
      rw [trimStart, List.dropWhile_append, ← trimStart, if_neg (by simpa using ht)]
    rw [trim, hs, trimEnd_eq, List.reverse_append, trimStart_append hrev, ← trimEnd_eq, trim]

theorem trim_blanks_append {l : List Char} (hl : Blanks l) (t : List Char) :
    trim (l ++ t) = trim t := by
  rw [trim, trimStart_append hl, trim]

theorem wordsFrom_solid {a : List Char} (ha : Solid a) (held r : List Char) :
    wordsFrom held (a ++ r) = wordsFrom (a.reverse ++ held) r := by
  induction a generalizing held with
  | nil => rfl
  | cons c a ih =>
    obtain ⟨hc, ha⟩ := solid_cons.1 ha
    rw [List.cons_append, wordsFrom, if_neg (by simp [hc]), ih ha]
    simp

theorem words_blanks {l : List Char} (hl : Blanks l) (t : List Char) :
    words (l ++ t) = words t := by
  induction l with
  | nil => rfl
  | cons c l ih =>
    obtain ⟨hc, hl⟩ := blanks_cons.1 hl
    rw [List.cons_append, words, wordsFrom, if_pos hc]
    exact ih hl

theorem words_solid {a : List Char} (ha : Solid a) (hne : a ≠ []) : words a = [a] := by
  have h := wordsFrom_solid ha [] []
  rw [List.append_nil, List.append_nil] at h
  rw [words, h, wordsFrom]
  simp [hne]

theorem words_solid_blank {a : List Char} (ha : Solid a) (hne : a ≠ []) {c : Char}
    (hc : isBlank c = true) (r : List Char) : words (a ++ c :: r) = a :: words r := by
  rw [words, wordsFrom_solid ha, wordsFrom, if_pos hc]
  simp [hne, words]

theorem wordsFrom_held (r : List Char) :
    ∃ w ws, ∀ held ≠ [], wordsFrom held r = (held.reverse ++ w) :: ws := by
  induction r with
  | nil => exact ⟨[], [], fun held hne => by simp [wordsFrom, hne]⟩
  | cons c r ih =>
    by_cases hc : isBlank c = true
    · exact ⟨[], words r, fun held hne => by simp [wordsFrom, hc, hne, words]⟩
    · obtain ⟨w, ws, h⟩ := ih
      refine ⟨c :: w, ws, fun held _ => ?_⟩
      rw [wordsFrom, if_neg hc, h (c :: held) (List.cons_ne_nil c held)]
      simp

theorem words_cons_solid {c : Char} (hc : isBlank c = false) (r : List Char) :
    ∃ w ws, words (c :: r) = (c :: w) :: ws ∧
      ∀ a, Solid a → words (a ++ c :: r) = (a ++ c :: w) :: ws := by
  obtain ⟨w, ws, h⟩ := wordsFrom_held r
  refine ⟨w, ws, ?_, fun a ha => ?_⟩
  · rw [words, wordsFrom, if_neg (by simp [hc]), h [c] (List.cons_ne_nil c [])]
    rfl
  · rw [words, wordsFrom_solid ha, wordsFrom, if_neg (by simp [hc]), h _ (List.cons_ne_nil c _)]
    simp

theorem words_append_blanks {r : List Char} (hr : Blanks r) (t : List Char) :
    words (t ++ r) = words t := by
  suffices h : ∀ held, wordsFrom held (t ++ r) = wordsFrom held t from h []
  induction t with
  | nil =>
    intro held
    have hn : wordsFrom [] r = [] := by simpa [words, wordsFrom] using words_blanks hr []
    cases r with
    | nil => rfl
    | cons c r =>
      obtain ⟨hc, hr⟩ := blanks_cons.1 hr
      simp only [wordsFrom, hc, if_true] at hn
      simp only [List.nil_append, wordsFrom, hc, if_true]
      simp only [List.isEmpty_nil, if_true] at hn
      rw [hn]
  | cons c t ih =>
    intro held
    simp only [List.cons_append, wordsFrom, ih]

theorem words_trim (t : List Char) : words (trim t) = words t := by
  obtain ⟨l, r, hl, hr, ht⟩ := exists_trim t
  have hw := congrArg words ht
  rw [words_blanks hl, words_append_blanks hr] at hw
  exact hw.symm

/-- Texts without a blank that stand in a text in their order, with blanks between them. -/
inductive Spaced : List (List Char) → List Char → Prop where
  | blanks {b : List Char} : Blanks b → Spaced [] b
  | last {b w : List Char} : Blanks b → Solid w → w ≠ [] → Spaced [w] (b ++ w)
  | word {b w t : List Char} {c : Char} {ws : List (List Char)} :
    Blanks b → Solid w → w ≠ [] → isBlank c = true → Spaced ws t →
      Spaced (w :: ws) (b ++ (w ++ c :: t))

theorem Spaced.words_eq {ws : List (List Char)} {t : List Char} (h : Spaced ws t) :
    words t = ws := by
  induction h with
  | blanks hb => simpa [words, wordsFrom] using words_blanks hb []
  | last hb hw hne => rw [words_blanks hb, words_solid hw hne]
  | word hb hw hne hc _ ih => rw [words_blanks hb, words_solid_blank hw hne hc, ih]

theorem Spaced.blank_cons {ws : List (List Char)} {t : List Char} {c : Char}
    (hc : isBlank c = true) (h : Spaced ws t) : Spaced ws (c :: t) := by
  cases h with
  | blanks hb => exact .blanks (blanks_cons.2 ⟨hc, hb⟩)
  | last hb hw hne => exact .last (blanks_cons.2 ⟨hc, hb⟩) hw hne
  | word hb hw hne hd hs => exact .word (blanks_cons.2 ⟨hc, hb⟩) hw hne hd hs

theorem spaced_wordsFrom {held : List Char} (hs : Solid held) (t : List Char) :
    Spaced (wordsFrom held t) (held.reverse ++ t) := by
  have solid_held : ∀ {d held}, Solid (d :: held) → Solid (d :: held).reverse :=
    fun hs c hc => hs c (List.mem_reverse.1 hc)
  induction t generalizing held with
  | nil =>
    cases held with
    | nil => exact .blanks blanks_nil
    | cons d held =>
      rw [List.append_nil]
      exact .last blanks_nil (solid_held hs) (by simp)
  | cons c t ih =>
    by_cases hc : isBlank c = true
    · have hrest : Spaced (wordsFrom [] t) t := ih (fun c hc => absurd hc List.not_mem_nil)
      rw [wordsFrom, if_pos hc]
      cases held with
      | nil => exact hrest.blank_cons hc
      | cons d held => exact .word blanks_nil (solid_held hs) (by simp) hc hrest
    · have hheld := ih (solid_cons.2 ⟨Bool.eq_false_iff.2 hc, hs⟩)
      rw [wordsFrom, if_neg hc]
      simpa using hheld

theorem spaced_iff {ws : List (List Char)} {t : List Char} : Spaced ws t ↔ words t = ws := by
  constructor
  · exact Spaced.words_eq
  · rintro rfl
    exact spaced_wordsFrom (fun c hc => absurd hc List.not_mem_nil) t

theorem cutAt_of_not_mem {x : Char} {a : List Char} (h : x ∉ a) : cutAt x a = [a] := by
  induction a with
  | nil => rfl
  | cons c a ih =>
    rw [List.mem_cons, not_or] at h
    rw [cutAt, if_neg (Ne.symm h.1), ih h.2]

theorem sublist_of_mem_cutAt {x : Char} {t p : List Char} (h : p ∈ cutAt x t) : p.Sublist t := by
  induction t generalizing p with
  | nil =>
    obtain rfl := List.mem_singleton.1 h
    exact List.Sublist.refl []
  | cons c t ih =>
    obtain ⟨q, qs, hq⟩ := List.exists_cons_of_ne_nil (cutAt_ne_nil x t)
    rw [cutAt, hq] at h
    rw [hq] at ih
    split at h
    · rcases List.mem_cons.1 h with rfl | h
      · exact List.nil_sublist _
      · exact (ih h).cons c
    · rcases List.mem_cons.1 h with rfl | h
      · exact (ih List.mem_cons_self).cons_cons c
      · exact (ih (List.mem_cons_of_mem q h)).cons c

theorem cutAt_append {x : Char} {a : List Char} (h : x ∉ a) (r : List Char) :
    ∃ p ps, cutAt x r = p :: ps ∧ cutAt x (a ++ r) = (a ++ p) :: ps := by
  induction a with
  | nil =>
    obtain ⟨p, ps, hp⟩ := List.exists_cons_of_ne_nil (cutAt_ne_nil x r)
    exact ⟨p, ps, hp, hp⟩
  | cons c a ih =>
    rw [List.mem_cons, not_or] at h
    obtain ⟨p, ps, hp, ha⟩ := ih h.2
    exact ⟨p, ps, hp, by rw [List.cons_append, cutAt, if_neg (Ne.symm h.1), ha]; rfl⟩

theorem cutAt_cons {x : Char} {a : List Char} (h : x ∉ a) (r : List Char) :
    cutAt x (a ++ x :: r) = a :: cutAt x r := by
  obtain ⟨p, ps, hp, ha⟩ := cutAt_append h (x :: r)
  rw [cutAt, if_pos rfl] at hp
  obtain ⟨rfl, rfl⟩ := List.cons.inj hp
  rw [ha, List.append_nil]

theorem cutAt_append_right {x : Char} {r : List Char} (h : x ∉ r) (t : List Char) :
    ∃ ps p, cutAt x t = ps ++ [p] ∧ cutAt x (t ++ r) = ps ++ [p ++ r] := by
  induction t with
  | nil => exact ⟨[], [], rfl, cutAt_of_not_mem h⟩
  | cons c t ih =>
    obtain ⟨ps, p, ht, hr⟩ := ih
    by_cases hc : c = x
    · exact ⟨[] :: ps, p, by simp [cutAt, hc, ht], by simp [cutAt, hc, hr]⟩
    · cases ps with
      | nil => exact ⟨[], c :: p, by simp [cutAt, hc, ht], by simp [cutAt, hc, hr]⟩
      | cons q ps => exact ⟨(c :: q) :: ps, p, by simp [cutAt, hc, ht], by simp [cutAt, hc, hr]⟩

theorem map_trim_cutAt_trim {x : Char} (hx : isBlank x = false) (t : List Char) :
    (cutAt x (trim t)).map trim = (cutAt x t).map trim := by
  have blanks_apart : ∀ {b : List Char}, Blanks b → x ∉ b := by
    intro b hb hm
    rw [hb x hm] at hx
    cases hx
  obtain ⟨l, r, hl, hr, ht⟩ := exists_trim t
  obtain ⟨ps, p, hp, hpr⟩ := cutAt_append_right (blanks_apart hr) (trim t)
  obtain ⟨q, qs, hq, hql⟩ := cutAt_append (blanks_apart hl) (trim t ++ r)
  have hright : (cutAt x (trim t ++ r)).map trim = (cutAt x (trim t)).map trim := by
    rw [hp, hpr, List.map_append, List.map_append, List.map_singleton, List.map_singleton,
      trim_append_blanks hr]
  have hleft : (cutAt x (l ++ (trim t ++ r))).map trim = (cutAt x (trim t ++ r)).map trim := by
    rw [hq, hql, List.map_cons, List.map_cons, trim_blanks_append hl]
  rw [← hright, ← hleft, ← ht]

theorem glue_cons_cons (x : Char) (p q : List Char) (ps : List (List Char)) :
    glue [x] (p :: q :: ps) = p ++ x :: glue [x] (q :: ps) := by
  simp [glue, List.intercalate, List.intersperse]

theorem glue_single (x : Char) (p : List Char) : glue [x] [p] = p := by
  simp [glue, List.intercalate]

theorem cutAt_glue {x : Char} {ps : List (List Char)} (hne : ps ≠ []) (h : ∀ p ∈ ps, x ∉ p) :
    cutAt x (glue [x] ps) = ps := by
  induction ps with
  | nil => exact absurd rfl hne
  | cons p ps ih =>
    obtain ⟨hp, hps⟩ := List.forall_mem_cons.1 h
    cases ps with
    | nil => rw [glue_single, cutAt_of_not_mem hp]
    | cons q ps => rw [glue_cons_cons, cutAt_cons hp, ih (List.cons_ne_nil q ps) hps]

theorem cutOnce_append_left {x : Char} {a : List Char} (h : x ∉ a) (r : List Char) :
    cutOnce x (a ++ r) = (a ++ (cutOnce x r).1, (cutOnce x r).2) := by
  induction a with
  | nil => rfl
  | cons c a ih =>
    rw [List.mem_cons, not_or] at h
    rw [List.cons_append, cutOnce, if_neg (Ne.symm h.1), ih h.2]
    rfl

theorem cutOnce_of_not_mem {x : Char} {t : List Char} (h : x ∉ t) : cutOnce x t = (t, none) := by
  have ht := cutOnce_append_left h []
  rwa [List.append_nil, cutOnce, List.append_nil] at ht

theorem cutOnce_some {x : Char} {t a r : List Char} (h : cutOnce x t = (a, some r)) :
    t = a ++ x :: r ∧ x ∉ a := by
  induction t generalizing a with
  | nil => simp [cutOnce] at h
  | cons c t ih =>
    rw [cutOnce] at h
    by_cases hc : c = x
    · rw [if_pos hc] at h
      cases h
      exact ⟨by rw [hc]; rfl, List.not_mem_nil⟩
    · rw [if_neg hc, Prod.mk.injEq] at h
      obtain ⟨rfl, hr⟩ := h
      obtain ⟨ht, hn⟩ := ih (Prod.ext rfl hr)
      refine ⟨congrArg (c :: ·) ht, ?_⟩
      rw [List.mem_cons, not_or]
      exact ⟨Ne.symm hc, hn⟩

theorem solid_glue {x : Char} (hx : isBlank x = false) {ps : List (List Char)}
    (h : ∀ p ∈ ps, Solid p) : Solid (glue [x] ps) := by
  induction ps with
  | nil => exact fun c hc => absurd hc List.not_mem_nil
  | cons p ps ih =>
    obtain ⟨hp, hps⟩ := List.forall_mem_cons.1 h
    cases ps with
    | nil => rwa [glue_single]
    | cons q ps =>
      rw [glue_cons_cons]
      exact solid_append.2 ⟨hp, solid_cons.2 ⟨hx, ih hps⟩⟩

end Scrutiny.Text
