import Scrutiny.Proofs.Recurrence.Limits
import Scrutiny.Proofs.Recurrence.Lines

/-!
# Blanks in a rule

A rule is cut at its semicolons and the parts are trimmed, but it is the rule as it came that is
read, and there blanks make lines. Blanks at the ends change nothing. Within a rule whose values
hold no blanks they never leave it valid, so that a valid one is read as the pairs that were
checked. A blank within a value, however, can hide a line of another property.
-/

set_option autoImplicit false

namespace Scrutiny.Recurrence

open Text

/-- The rule without blanks around its parts. -/
def tight (t : List Char) : List Char := glue [';'] ((cutAt ';' (body t)).map trim)

/-- A text is read as one rule, with the pairs that its parts are. -/
def ReadsAs (t : List Char) (ps : List Part) : Prop :=
  ∃ rule, (words (upper t)).map Line.of = [⟨"RRULE".toList, [], rule⟩] ∧
    (cutAt ';' rule).map (cutOnce '=') = ps.map fun p => (p.name, some p.value)

theorem not_mem_of_isName {n : List Char} (h : isName n = true) {x : Char}
    (hx : isNameChar x = false) : x ∉ n := by
  intro hm
  cases n with
  | nil => cases hm
  | cons c r =>
    rw [isName, Bool.and_eq_true] at h
    rcases List.mem_cons.1 hm with rfl | hm
    · rw [isNameChar, h.1] at hx
      cases hx
    · rw [List.all_eq_true.1 h.2 x hm] at hx
      cases hx

structure IsPair (q n v : List Char) (p : Part) : Prop where
  text : trim q = n ++ '=' :: v
  name : isName n = true
  value : isValue v = true
  part : p = ⟨upper n, upper v⟩

theorem part?_pair {q : List Char} {p : Part} (h : part? q = some p) : ∃ n v, IsPair q n v p := by
  unfold part? at h
  split at h
  · rename_i n v hc
    split at h
    · rename_i hnv
      rw [Bool.and_eq_true] at hnv
      exact ⟨n, v, (cutOnce_some hc).1, hnv.1, hnv.2, (Option.some.inj h).symm⟩
    · cases h
  · cases h

theorem part?_trim (q : List Char) : part? (trim q) = part? q := by
  rw [part?, trim_trim, part?]

theorem properties_plain : ∀ p ∈ properties, p ≠ [] ∧ '=' ∉ p := by decide

theorem not_readable_nil : ¬ Readable [] := by
  intro h
  have hp := h.pairs List.not_mem_nil [] List.mem_cons_self
  cases hp

theorem not_readable_semicolon (x : List Char) : ¬ Readable (';' :: x) := by
  intro h
  by_cases hx : ':' ∈ x
  · obtain ⟨a, s, rfl, ha⟩ := List.eq_append_cons_of_mem hx
    have hn : (Line.of (';' :: a ++ ':' :: s)).name = [] := by
      rw [Line.of_property (by simpa using ha)]
      rfl
    exact (properties_plain _ h.known).1 hn
  · have hp := h.pairs (by simpa using hx) [] List.mem_cons_self
    cases hp

theorem Readable.no_colon {n r : List Char} (h : Readable (n ++ '=' :: r)) (hc : ':' ∉ n)
    (hs : ';' ∉ n) : ':' ∉ n ++ '=' :: r := by
  intro hm
  have hr : ':' ∈ r := by simpa [hc] using hm
  obtain ⟨a, s, rfl, ha⟩ := List.eq_append_cons_of_mem hr
  have hf : ';' ∉ n ++ ['='] := by simp [hs]
  obtain ⟨p, ps, -, hp⟩ := cutAt_append hf a
  have hn : (Line.of (n ++ '=' :: (a ++ ':' :: s))).name = n ++ ['='] ++ p := by
    have hfront : ':' ∉ n ++ ['='] ++ a := by simp [hc, ha]
    have ho : (Line.of (n ++ ['='] ++ a ++ ':' :: s)).name = _ := Line.of_property hfront
    rw [hp] at ho
    simpa using ho
  have hk := (properties_plain _ h.known).2
  rw [hn] at hk
  simp at hk

theorem Readable.tail {core x : List Char} (h : Readable (core ++ ';' :: x))
    (hc : ':' ∉ core ++ ';' :: x) (hs : ';' ∉ core) : Readable x := by
  have hx : ':' ∉ x := fun hm => hc (by simp [hm])
  refine ⟨by rw [Line.of_rule hx]; exact List.mem_cons_self, fun _ pair hp => ?_⟩
  refine h.pairs hc pair ?_
  rw [cutAt_cons hs]
  exact List.mem_cons_of_mem core hp

structure IsSolidPart (q : List Char) : Prop where
  whole : ';' ∉ q
  solid : Solid (trim q)
  part : ∃ n v p, IsPair q n v p

namespace IsSolidPart
variable {q : List Char} (h : IsSolidPart q)
include h

theorem ne_nil : trim q ≠ [] := by
  obtain ⟨n, v, p, hp⟩ := h.part
  simp [hp.text]

theorem trim_whole : ';' ∉ trim q := fun hm => h.whole (mem_of_mem_trim hm)

theorem tail {x : List Char} (hr : Readable (upper (trim q ++ ';' :: x))) :
    Readable (upper x) := by
  have hs : ';' ∉ upper (trim q) := by
    rw [mem_upper_iff (by decide)]
    exact h.trim_whole
  rw [upper_append, upper_cons_caseless (by decide)] at hr
  refine hr.tail ?_ hs
  obtain ⟨n, v, p, hp⟩ := h.part
  rw [hp.text, upper_append, upper_cons_caseless (by decide), List.append_assoc,
    List.cons_append] at hr ⊢
  refine hr.no_colon ?_ ?_
  · rw [mem_upper_iff (by decide)]
    exact not_mem_of_isName hp.name (by decide)
  · rw [mem_upper_iff (by decide)]
    exact not_mem_of_isName hp.name (by decide)

theorem solid_semicolon : Solid (trim q ++ [';']) := solid_append.2 ⟨h.solid, by decide⟩

theorem no_blank_before {r rest : List Char} (hr : Blanks r)
    (hw : ∀ w ∈ words (trim q ++ (r ++ ';' :: rest)), Readable (upper w)) : r = [] := by
  cases r with
  | nil => rfl
  | cons c r =>
    obtain ⟨hc, hr⟩ := blanks_cons.1 hr
    obtain ⟨w, ws, hws, -⟩ := words_cons_solid (c := ';') (by decide) rest
    rw [List.cons_append, words_solid_blank h.solid h.ne_nil hc, words_blanks hr, hws] at hw
    have hn := hw (';' :: w) (by simp)
    rw [upper_cons_caseless (by decide)] at hn
    exact absurd hn (not_readable_semicolon _)

theorem no_blank_behind {rest : List Char}
    (hw : ∀ w ∈ words (trim q ++ ';' :: rest), Readable (upper w)) :
    ∃ c r, rest = c :: r ∧ isBlank c = false := by
  have hlast : ¬ Readable (upper (trim q ++ [';'])) := fun hr => not_readable_nil (h.tail hr)
  have hg : trim q ++ ';' :: rest = (trim q ++ [';']) ++ rest := by simp
  rw [hg] at hw
  cases rest with
  | nil =>
    rw [List.append_nil, words_solid h.solid_semicolon (by simp)] at hw
    exact absurd (hw _ List.mem_cons_self) hlast
  | cons c r =>
    cases hc : isBlank c with
    | false => exact ⟨c, r, rfl, hc⟩
    | true =>
      rw [words_solid_blank h.solid_semicolon (by simp) hc] at hw
      exact absurd (hw _ List.mem_cons_self) hlast

theorem readable_behind {rest : List Char}
    (hw : ∀ w ∈ words (trim q ++ ';' :: rest), Readable (upper w)) :
    ∀ w ∈ words rest, Readable (upper w) := by
  obtain ⟨c, r, rfl, hc⟩ := h.no_blank_behind hw
  obtain ⟨w, ws, hws, happ⟩ := words_cons_solid hc r
  have hg : trim q ++ ';' :: c :: r = (trim q ++ [';']) ++ c :: r := by simp
  rw [hg, happ _ h.solid_semicolon] at hw
  obtain ⟨hfirst, hrest⟩ := List.forall_mem_cons.1 hw
  rw [hws]
  refine List.forall_mem_cons.2 ⟨h.tail ?_, hrest⟩
  simpa using hfirst

end IsSolidPart

/-- If every line can be read, there are no blanks but at the ends. -/
theorem tight_of_readable {qs : List (List Char)} (hne : qs ≠ [])
    (hall : ∀ q ∈ qs, IsSolidPart q)
    (hw : ∀ w ∈ words (glue [';'] qs), Readable (upper w)) :
    ∃ l r, Blanks l ∧ Blanks r ∧ glue [';'] qs = l ++ (glue [';'] (qs.map trim) ++ r) := by
  induction qs with
  | nil => exact absurd rfl hne
  | cons q qs ih =>
    obtain ⟨hq, hqs⟩ := List.forall_mem_cons.1 hall
    obtain ⟨l, r, hl, hr, ht⟩ := exists_trim q
    cases qs with
    | nil => exact ⟨l, r, hl, hr, by simpa [glue_single] using ht⟩
    | cons q' qs =>
      rw [List.map_cons, List.map_cons, glue_cons_cons, glue_cons_cons, ← List.map_cons]
      generalize hrest : glue [';'] (q' :: qs) = rest at hw ih ⊢
      rw [glue_cons_cons, hrest] at hw
      have hg : q ++ ';' :: rest = l ++ (trim q ++ (r ++ ';' :: rest)) := by
        have h := congrArg (· ++ ';' :: rest) ht
        simpa using h
      rw [hg, words_blanks hl] at hw
      obtain rfl := hq.no_blank_before hr hw
      obtain ⟨l', r', hl', hr', hm⟩ := ih (List.cons_ne_nil q' qs) hqs (hq.readable_behind hw)
      obtain ⟨c, x, hx, hc⟩ := hq.no_blank_behind hw
      obtain rfl : l' = [] := by
        cases l' with
        | nil => rfl
        | cons d l' =>
          rw [hm] at hx
          obtain rfl : d = c := (List.cons.inj hx).1
          rw [(blanks_cons.1 hl').1] at hc
          cases hc
      refine ⟨l, r', hl, hr', ?_⟩
      rw [hg, List.nil_append, hm]
      simp

theorem mapM_part {qs : List (List Char)} {ps : List Part} (h : qs.mapM part? = some ps) :
    (∀ q ∈ qs, ∃ p, part? q = some p) ∧
      ∀ {α : Type} (f : List Char → α) (g : Part → α),
        (∀ q p, part? q = some p → f q = g p) → qs.map f = ps.map g := by
  induction qs generalizing ps with
  | nil =>
    cases h
    exact ⟨by simp, fun f g _ => rfl⟩
  | cons q qs ih =>
    rw [List.mapM_cons] at h
    obtain ⟨p, hp, h⟩ := Option.bind_eq_some_iff.1 h
    obtain ⟨ps', hps, h⟩ := Option.bind_eq_some_iff.1 h
    cases h
    obtain ⟨hmem, hmap⟩ := ih hps
    refine ⟨List.forall_mem_cons.2 ⟨⟨p, hp⟩, hmem⟩, fun f g hfg => ?_⟩
    rw [List.map_cons, List.map_cons, hfg q p hp, hmap f g hfg]

theorem cutAt_tight (t : List Char) : cutAt ';' (tight t) = (cutAt ';' (body t)).map trim := by
  refine cutAt_glue (by simpa using cutAt_ne_nil ';' (body t)) fun p hm => ?_
  obtain ⟨q, hq, rfl⟩ := List.mem_map.1 hm
  exact fun h => not_mem_of_mem_cutAt ';' (body t) q hq (mem_of_mem_trim h)

section
variable {t : List Char} {ps : List Part} (hp : parts? t = some ps)
include hp

theorem pieces_part : ∀ q ∈ cutAt ';' (body t), ∃ p, part? q = some p := (mapM_part hp).1

theorem tight_begins : ∃ n r, tight t = n ++ '=' :: r ∧ isName n = true := by
  obtain ⟨q, qs, hq⟩ := List.exists_cons_of_ne_nil (cutAt_ne_nil ';' (body t))
  obtain ⟨p, hpart⟩ := pieces_part hp q (by simp [hq])
  obtain ⟨n, v, hpair⟩ := part?_pair hpart
  rw [tight, hq, List.map_cons, hpair.text]
  cases qs with
  | nil => exact ⟨n, v, by simp [glue_single], hpair.name⟩
  | cons q' qs =>
    refine ⟨n, v ++ ';' :: glue [';'] ((q' :: qs).map trim), ?_, hpair.name⟩
    rw [List.map_cons, glue_cons_cons]
    simp

theorem tight_unmarked : ¬ mark.isPrefixOf (upper (tight t)) = true := by
  intro h
  obtain ⟨s, hs⟩ := List.isPrefixOf_iff_prefix.1 h
  obtain ⟨n, r, hn, hname⟩ := tight_begins hp
  rw [hn, upper_append, upper_cons_caseless (by decide)] at hs
  have he : '=' ∉ upper n := by
    rw [mem_upper_iff (by decide)]
    exact not_mem_of_isName hname (by decide)
  have hc : ':' ∉ upper n := by
    rw [mem_upper_iff (by decide)]
    exact not_mem_of_isName hname (by decide)
  have hm : "RRULE".toList ++ ':' :: s = upper n ++ '=' :: upper r := hs
  rcases List.append_eq_append_iff.1 hm with ⟨a, ha, hb⟩ | ⟨a, ha, hb⟩
  · cases a with
    | nil => cases (List.cons.inj hb).1
    | cons c a =>
      obtain rfl := (List.cons.inj hb).1
      exact hc (by simp [ha])
  · cases a with
    | nil => cases (List.cons.inj hb).1
    | cons c a =>
      obtain rfl := (List.cons.inj hb).1
      have hmem : '=' ∈ "RRULE".toList := by simp [ha]
      exact absurd hmem (by decide)

theorem parts?_tight (ht : trim (tight t) = tight t) :
    body (tight t) = tight t ∧ parts? (tight t) = parts? t := by
  have hb : body (tight t) = tight t := by
    rw [body, ht, if_neg (tight_unmarked hp)]
  refine ⟨hb, ?_⟩
  have hpart : part? ∘ trim = part? := funext part?_trim
  rw [parts?, hb, cutAt_tight, List.mapM_map, hpart, parts?]

theorem solidParts (hs : ∀ q ∈ cutAt ';' (body t), Solid (trim q)) :
    ∀ q ∈ cutAt ';' (body t), IsSolidPart q := by
  intro q hq
  obtain ⟨p, hpart⟩ := pieces_part hp q hq
  obtain ⟨n, v, hpair⟩ := part?_pair hpart
  exact ⟨not_mem_of_mem_cutAt ';' (body t) q hq, hs q hq, n, v, p, hpair⟩

theorem readsAs_of_line {b : List Char} (hw : words b = [tight t])
    (hr : Readable (upper (tight t))) : ReadsAs b ps := by
  have hc : ':' ∉ upper (tight t) := by
    obtain ⟨n, r, hn, hname⟩ := tight_begins hp
    rw [hn, upper_append, upper_cons_caseless (by decide)] at hr ⊢
    refine hr.no_colon ?_ ?_
    · rw [mem_upper_iff (by decide)]
      exact not_mem_of_isName hname (by decide)
    · rw [mem_upper_iff (by decide)]
      exact not_mem_of_isName hname (by decide)
  refine ⟨upper (tight t), ?_, ?_⟩
  · rw [words_upper, hw, List.map_cons, List.map_nil, List.map_cons, List.map_nil,
      Line.of_rule hc]
  · rw [cutAt_upper (by decide), cutAt_tight, List.map_map, List.map_map]
    refine (mapM_part hp).2 _ _ fun q p hq => ?_
    obtain ⟨n, v, hpair⟩ := part?_pair hq
    have he : '=' ∉ upper n := by
      rw [mem_upper_iff (by decide)]
      exact not_mem_of_isName hpair.name (by decide)
    simp only [Function.comp_apply]
    rw [hpair.text, upper_append, upper_cons_caseless (by decide), cutOnce_append he, hpair.part]

end

/-- Blanks at the ends of a rule change nothing of the answer. Blanks elsewhere around the parts,
as long as the parts themselves hold none, never leave a rule valid, so that a valid one is read as
the parts that were checked. -/
theorem valid_read_as_checked {read : Reading} (hr : ByLines read) {t : List Char}
    {ps : List Part} (hp : parts? t = some ps) :
    (trim (body t) = tight t → checkWith read (tight t) = checkWith read t) ∧
    ((∀ q ∈ cutAt ';' (body t), Solid (trim q)) → checkWith read t = .ok .valid →
      trim (body t) = tight t ∧ ReadsAs (body t) ps) := by
  constructor
  · intro ht
    obtain ⟨hb, hps⟩ := parts?_tight hp (by rw [← ht, trim_trim])
    have hread (hn : problem? ps = .ok none) : read (tight t) = read (body t) := by
      rw [← ht]
      exact hr.trimmed (body t) ⟨t, ps, hp, hn, rfl⟩
    simp only [checkWith, hps, hb, hp]
    cases hn : problem? ps with
    | error e => rfl
    | ok problem =>
      cases problem with
      | some p => rfl
      | none => rw [hread hn]
  · intro hs hv
    obtain ⟨qs, hps, hn, hread⟩ := (checkWith_eq_valid_iff read t).1 hv
    have hlines := hr.readable (body t) ⟨t, qs, hps, hn, rfl⟩ hread
    rw [words_upper] at hlines
    have hall := solidParts hp hs
    have hne := cutAt_ne_nil ';' (body t)
    have hw : ∀ w ∈ words (glue [';'] (cutAt ';' (body t))), Readable (upper w) := by
      rw [glue_cutAt]
      exact fun w hw => hlines _ (List.mem_map_of_mem hw)
    obtain ⟨l, r, hl, hr', hb⟩ := tight_of_readable hne hall hw
    rw [glue_cutAt, ← tight] at hb
    have hsolid : Solid (tight t) := by
      refine solid_glue (by decide) fun p hm => ?_
      obtain ⟨q, hq, rfl⟩ := List.mem_map.1 hm
      exact hs q hq
    have htight : tight t ≠ [] := by
      obtain ⟨n, s, hn, -⟩ := tight_begins hp
      simp [hn]
    have hone : words (body t) = [tight t] := by
      rw [hb, words_blanks hl, words_append_blanks hr', words_solid hsolid htight]
    refine ⟨by rw [hb, trim_of_solid hl hr' htight hsolid], readsAs_of_line hp hone ?_⟩
    rw [hone] at hlines
    exact hlines _ (by simp)

theorem valid_read_as_checked_marked :
    (∃ ps, parts? " RRULE:FREQ=DAILY;COUNT=3 ".toList = some ps) ∧
    trim (body " RRULE:FREQ=DAILY;COUNT=3 ".toList) =
      tight " RRULE:FREQ=DAILY;COUNT=3 ".toList ∧
    ReadsAs (body " RRULE:FREQ=DAILY;COUNT=3 ".toList)
      [⟨"FREQ".toList, "DAILY".toList⟩, ⟨"COUNT".toList, "3".toList⟩] :=
  ⟨⟨_, rfl⟩, (valid_read_as_checked read_byLines rfl).2 (by decide) rfl⟩

/-- A blank around a part undoes a valid rule, and one within a value hides another line. -/
theorem blanks_unseen :
    parts? "FREQ=DAILY; COUNT=3".toList = parts? "FREQ=DAILY;COUNT=3".toList ∧
    check "FREQ=DAILY;COUNT=3".toList = .ok .valid ∧
    check "FREQ=DAILY; COUNT=3".toList =
      .ok (.invalid "not enough values to unpack (expected 2, got 1)") ∧
    check "FREQ=DAILY RDATE:20240101".toList = .ok .valid ∧
    ¬ ∃ ps, ReadsAs (body "FREQ=DAILY RDATE:20240101".toList) ps := by
  refine ⟨by decide +kernel, ok_of_toOption (by decide +kernel), ok_of_toOption (by decide +kernel),
    ok_of_toOption (by decide +kernel), ?_⟩
  rintro ⟨ps, rule, hlines, -⟩
  have htwo : ((words (upper (body "FREQ=DAILY RDATE:20240101".toList))).map Line.of).length = 2 :=
    by decide
  rw [hlines] at htwo
  cases htwo

end Scrutiny.Recurrence
