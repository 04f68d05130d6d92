import Scrutiny.Proofs.Text.Capitals
import Scrutiny.Recurrence.Check

/-!
# Lines of a recurrence text

Blanks make lines of a text, colons make properties of lines, and semicolons make pairs of a rule.
What is assumed of a reading is no more than that, and only of texts that a check hands over to it:
blanks at the ends of such a text are nothing to it, and it takes none of which a line gives an
unknown property or is a rule with a part that is no pair. The reading of this library is such a one.
-/

set_option autoImplicit false

namespace Scrutiny.Recurrence

open Text

def properties : List (List Char) :=
  ["RRULE".toList, "RDATE".toList, "EXRULE".toList, "EXDATE".toList, "DTSTART".toList]

/-- A line gives a known property. One without a colon is a rule, which consists of pairs. -/
structure Readable (line : List Char) : Prop where
  known : (Line.of line).name ∈ properties
  pairs : ':' ∉ line → ∀ pair ∈ cutAt ';' line, '=' ∈ pair

/-- A text that is handed over to be read: it falls into parts, and these are within their limits. -/
def HandedOver (b : List Char) : Prop :=
  ∃ t ps, parts? t = some ps ∧ problem? ps = .ok none ∧ b = body t

structure ByLines (read : Reading) : Prop where
  trimmed : ∀ b, HandedOver b → read (trim b) = read b
  readable : ∀ b, HandedOver b → read b = .ok () → ∀ line ∈ words (upper b), Readable line

theorem Line.of_rule {line : List Char} (h : ':' ∉ line) :
    Line.of line = ⟨"RRULE".toList, [], line⟩ := by
  have hn := (cutOnce_none_iff ':' line).2 h
  unfold Line.of
  split
  · rename_i rule hc
    have hg := cutOnce_append_left h []
    rw [List.append_nil] at hg
    rw [hg] at hc
    simp only [cutOnce, List.append_nil, Prod.mk.injEq, and_true] at hc
    rw [hc]
  · rename_i front value hc
    rw [hc] at hn
    cases hn

theorem Line.of_property {front value : List Char} (h : ':' ∉ front) :
    (Line.of (front ++ ':' :: value)).name = (cutAt ';' front).headD [] := by
  unfold Line.of
  rw [cutOnce_append h]
  cases hc : cutAt ';' front with
  | nil => exact absurd hc (cutAt_ne_nil ';' front)
  | cons name parameters => simp [hc]

theorem flawless_bind {α β : Type} {x : Except Flaw α} {k : α → Except Flaw β} {b : β}
    (h : x >>= k = .ok b) : ∃ a, x = .ok a ∧ k a = .ok b := by
  cases x with
  | error f => cases h
  | ok a => exact ⟨a, rfl, h⟩

theorem flawless_foldlM {α β : Type} {f : α → β → Except Flaw α} {bs : List β} {a z : α}
    (h : bs.foldlM f a = .ok z) : ∀ b ∈ bs, ∃ x y, f x b = .ok y := by
  induction bs generalizing a with
  | nil => simp
  | cons b bs ih =>
    rw [List.foldlM_cons] at h
    obtain ⟨y, hy, hr⟩ := flawless_bind h
    exact List.forall_mem_cons.2 ⟨⟨a, y, hy⟩, ih hr⟩

theorem flawless_forM {β : Type} {f : β → Except Flaw Unit} {bs : List β}
    (h : bs.forM f = .ok ()) : ∀ b ∈ bs, f b = .ok () := by
  induction bs with
  | nil => simp
  | cons b bs ih =>
    obtain ⟨u, hu, hr⟩ := flawless_bind h
    exact List.forall_mem_cons.2 ⟨hu, ih hr⟩

theorem putPair_equals {d d' : Draft} {pair : List Char} (h : d.putPair pair = .ok d') :
    '=' ∈ pair := by
  refine Decidable.byContradiction fun hn => ?_
  have hc := (cutOnce_none_iff '=' pair).2 hn
  unfold Draft.putPair at h
  split at h
  · cases h
  · rename_i name value hv
    rw [hv] at hc
    cases hc

theorem readRule_pairs {start : Option Calendar.Moment} {line : List Char}
    (h : readRule start line = .ok ()) (hl : ':' ∉ line) :
    ∀ pair ∈ cutAt ';' line, '=' ∈ pair := by
  have hp : pairsOf line = .ok (cutAt ';' line) := by
    rw [pairsOf, cutAt_of_not_mem hl]
  obtain ⟨pairs, hps, hr⟩ := flawless_bind h
  obtain rfl := Except.ok.inj (hp.symm.trans hps)
  obtain ⟨d, hd, -⟩ := flawless_bind hr
  intro pair hm
  obtain ⟨x, y, hy⟩ := flawless_foldlM hd pair hm
  exact putPair_equals hy

structure Adds (line : List Char) (c c' : Content) : Prop where
  kept : ∀ rule ∈ c.rules, rule ∈ c'.rules
  known : (Line.of line).name ∈ properties
  rule : (Line.of line).name = "RRULE".toList → (Line.of line).value ∈ c'.rules

theorem put_adds {zones : List (List Char)} {c c' : Content} {line : List Char}
    (h : c.put zones line = .ok c') : Adds line c c' := by
  have named : ∀ {s : String}, String.ofList (Line.of line).name = s →
      (Line.of line).name = s.toList := by
    intro s hs
    rw [← hs, String.toList_ofList]
  unfold Content.put at h
  dsimp only at h
  split at h
  case h_1 hn =>
    obtain ⟨u, -, h⟩ := flawless_bind h
    cases h
    exact ⟨by simp +contextual, by simp [named hn, properties], by simp⟩
  case h_2 hn =>
    obtain ⟨u, -, h⟩ := flawless_bind h
    cases h
    exact ⟨fun _ => id, by simp [named hn, properties], by simp [named hn]⟩
  case h_3 hn =>
    obtain ⟨u, -, h⟩ := flawless_bind h
    cases h
    exact ⟨fun _ => id, by simp [named hn, properties], by simp [named hn]⟩
  case h_4 hn =>
    obtain ⟨u, -, h⟩ := flawless_bind h
    cases h
    exact ⟨fun _ => id, by simp [named hn, properties], by simp [named hn]⟩
  case h_5 hn =>
    obtain ⟨ms, -, h⟩ := flawless_bind h
    split at h
    · cases h
      exact ⟨fun _ => id, by simp [named hn, properties], by simp [named hn]⟩
    · cases h
  case h_6 => cases h

theorem foldlM_put_adds {zones lines : List (List Char)} {c c' : Content}
    (h : lines.foldlM (Content.put zones) c = .ok c') :
    (∀ rule ∈ c.rules, rule ∈ c'.rules) ∧ ∀ line ∈ lines, Adds line c c' := by
  induction lines generalizing c with
  | nil =>
    cases h
    exact ⟨fun _ => id, by simp⟩
  | cons line lines ih =>
    rw [List.foldlM_cons] at h
    obtain ⟨d, hd, h⟩ := flawless_bind h
    have hline := put_adds hd
    obtain ⟨hkept, hlines⟩ := ih h
    have hall : ∀ rule ∈ c.rules, rule ∈ c'.rules := fun rule hr =>
      hkept rule (hline.kept rule hr)
    refine ⟨hall, List.forall_mem_cons.2 ⟨⟨hall, hline.known, fun hn => ?_⟩, fun l hl => ?_⟩⟩
    · exact hkept _ (hline.rule hn)
    · exact ⟨hall, (hlines l hl).known, (hlines l hl).rule⟩

theorem settle_rules {c : Content} (h : c.settle = .ok ()) :
    ∀ rule ∈ c.rules, readRule c.start rule = .ok () := by
  obtain ⟨u, hu, -⟩ := flawless_bind h
  exact flawless_forM hu

theorem Adds.readable {line : List Char} {c c' : Content} (h : Adds line c c')
    (hs : c'.settle = .ok ()) : Readable line := by
  refine ⟨h.known, fun hl => ?_⟩
  have hr := h.rule
  rw [Line.of_rule hl] at hr
  exact readRule_pairs (settle_rules hs line (hr rfl)) hl

theorem readRule_readable {line : List Char} (h : readRule none line = .ok ())
    (hm : line.contains ':' = true → mark.isPrefixOf line = true) : Readable line := by
  refine ⟨?_, readRule_pairs h⟩
  by_cases hl : ':' ∈ line
  · obtain ⟨rule, rfl⟩ := List.isPrefixOf_iff_prefix.1 (hm (by simpa using hl))
    have hp : (Line.of ("RRULE".toList ++ ':' :: rule)).name = "RRULE".toList :=
      Line.of_property (by decide)
    rw [show mark ++ rule = "RRULE".toList ++ ':' :: rule from rfl, hp]
    exact List.mem_cons_self
  · rw [Line.of_rule hl]
    exact List.mem_cons_self

theorem read_readable {t : List Char} (h : read t = .ok ()) :
    ∀ line ∈ words (upper t), Readable line := by
  unfold read at h
  split at h
  case h_1 => cases h
  case h_2 line hw =>
    rw [hw]
    rintro l (_ | ⟨_, ⟨⟩⟩)
    split at h
    · obtain ⟨c, hc, hs⟩ := flawless_bind h
      exact (put_adds hc).readable hs
    · rename_i hm
      refine readRule_readable h fun hl => ?_
      rw [hl, Bool.true_and, Bool.not_eq_true, Bool.not_eq_false'] at hm
      exact hm
  case h_3 =>
    obtain ⟨c, hc, hs⟩ := flawless_bind h
    intro line hl
    exact ((foldlM_put_adds hc).2 line hl).readable hs

theorem mark_solid : Solid zoneMark := by decide

theorem zonesFrom_blank {c : Char} (hc : isBlank c = true) (t : List Char) :
    zonesFrom 0 (c :: t) = zonesFrom 0 t := by
  have hn : ¬ zoneMark.isPrefixOf (c :: t) = true := by
    intro hp
    have hm : c ∈ zoneMark := by
      obtain ⟨r, hr⟩ := List.isPrefixOf_iff_prefix.1 hp
      exact (List.cons.inj hr).1 ▸ List.mem_cons_self
    rw [mark_solid c hm] at hc
    cases hc
  rw [zonesFrom, if_neg hn]

theorem zonesFrom_blanks {l : List Char} (hl : Blanks l) (t : List Char) :
    zonesFrom 0 (l ++ t) = zonesFrom 0 t := by
  induction l with
  | nil => rfl
  | cons c l ih =>
    obtain ⟨hc, hl⟩ := blanks_cons.1 hl
    rw [List.cons_append, zonesFrom_blank hc, ih hl]

theorem zonesFrom_of_blanks {r : List Char} (hr : Blanks r) (skip : Nat) :
    zonesFrom skip r = [] := by
  induction r generalizing skip with
  | nil => cases skip <;> rfl
  | cons c r ih =>
    obtain ⟨hc, hr⟩ := blanks_cons.1 hr
    cases skip with
    | zero => rw [zonesFrom_blank hc, ih hr]
    | succ skip => exact ih hr skip

theorem prefix_append_blanks {m t r : List Char} (hm : Solid m) (hr : Blanks r) :
    m <+: t ++ r ↔ m <+: t := by
  refine ⟨fun h => ?_, fun h => h.trans (List.prefix_append t r)⟩
  induction m generalizing t with
  | nil => exact List.nil_prefix
  | cons c m ih =>
    obtain ⟨hc, hm⟩ := solid_cons.1 hm
    cases t with
    | nil =>
      have hb := hr c (h.subset List.mem_cons_self)
      rw [hc] at hb
      cases hb
    | cons d t =>
      obtain ⟨rfl, ht⟩ := List.cons_prefix_cons.1 h
      exact List.cons_prefix_cons.2 ⟨rfl, ih hm ht⟩

theorem zonesFrom_append_blanks {r : List Char} (hr : Blanks r) (t : List Char) (skip : Nat) :
    zonesFrom skip (t ++ r) = zonesFrom skip t := by
  have hname : r.takeWhile (· ≠ ':') = r := by
    have hn : ∀ c ∈ r, decide (c ≠ ':') = true := by
      intro c hc
      refine decide_eq_true fun e => ?_
      rw [e] at hc
      exact absurd (hr ':' hc) (by decide)
    have happ : (r ++ []).takeWhile (· ≠ ':') = r ++ [] := List.takeWhile_append_of_pos hn
    simpa using happ
  induction t generalizing skip with
  | nil =>
    rw [List.nil_append, zonesFrom_of_blanks hr]
    cases skip <;> rfl
  | cons c t ih =>
    cases skip with
    | succ skip => exact ih skip
    | zero =>
      have hp : zoneMark.isPrefixOf (c :: (t ++ r)) = zoneMark.isPrefixOf (c :: t) := by
        rw [Bool.eq_iff_iff, List.isPrefixOf_iff_prefix, List.isPrefixOf_iff_prefix]
        exact prefix_append_blanks (t := c :: t) mark_solid hr
      rw [List.cons_append, zonesFrom, zonesFrom, hp]
      split
      · rename_i h
        have hl := (List.isPrefixOf_iff_prefix.1 h).length_le
        have hd : (c :: t ++ r).drop zoneMark.length = (c :: t).drop zoneMark.length ++ r :=
          List.drop_append_of_le_length hl
        rw [List.cons_append] at hd
        simp only [hd]
        generalize (c :: t).drop zoneMark.length = rest
        rw [List.takeWhile_append, hname]
        have hle : (rest.takeWhile (· ≠ ':')).length ≤ rest.length :=
          (List.takeWhile_prefix _).length_le
        generalize rest.takeWhile (· ≠ ':') = name at hle ⊢
        by_cases hc : name.length = rest.length
        · simp [hc, ih]
        · have hlt : name.length ≠ rest.length + r.length := by omega
          simp [hc, hlt, ih]
      · exact ih 0

theorem read_trim (t : List Char) : read (trim t) = read t := by
  have hw : words (upper (trim t)) = words (upper t) := by
    rw [words_upper, words_trim, words_upper]
  have hz : zonesFrom 0 (trim t) = zonesFrom 0 t := by
    obtain ⟨l, r, hl, hr, ht⟩ := exists_trim t
    have h := congrArg (zonesFrom 0) ht
    rw [zonesFrom_blanks hl, zonesFrom_append_blanks hr] at h
    exact h.symm
  rw [read, read, hw, hz]

theorem read_byLines : ByLines read := ⟨fun b _ => read_trim b, fun _ _ => read_readable⟩

end Scrutiny.Recurrence
