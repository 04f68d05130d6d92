import Scrutiny.Proofs.Recurrence.Pairs

/-!
# Integers too long to be read

Items are looked at one after the other, and the first one that is not within its limits is what is
wrong with a rule. If that one is an integer of more digits than can be read, then there is no
answer. Nothing else that stands in a rule keeps it from one, and it takes a text of more characters
than an integer may have digits.
-/

set_option autoImplicit false

namespace Scrutiny.Recurrence

open Text

def IsOverlong (item : List Char) : Prop :=
  isSignedDigits item = true ∧ digitLimit < (signOf item).2.length

def Limits.Takes (l : Limits) (item : List Char) : Prop :=
  isSignedDigits item = true ∧ ∃ n, signedValue? item = some n ∧ l.Admits n

/-- The first item of a list that is not taken is too long. -/
def Limits.Stumbles (l : Limits) (value : List Char) : Prop :=
  ∃ before item after, cutAt ',' value = before ++ item :: after ∧
    (∀ i ∈ before, l.Takes i) ∧ IsOverlong item

/-- The limits are looked at in their order, each for the last part of its name, as long as there is
nothing wrong; the list of one of them has an item that is too long. -/
structure Stumbles (ps : List Part) : Prop where
  single : ¬ (Names ps "COUNT" ∧ Names ps "UNTIL")
  list : ∃ early l late, limits = early ++ l :: late ∧
    (∀ k ∈ early, ∀ p, IsLast ps p → p.name = k.name.toList → k.Lists p.value) ∧
    ∃ p, IsLast ps p ∧ p.name = l.name.toList ∧ l.Stumbles p.value

/-- A rule that falls into parts, with an item that is too long. -/
def Overlong (t : List Char) : Prop := ∃ ps, parts? t = some ps ∧ Stumbles ps

theorem Limits.itemProblem?_eq_error_iff (l : Limits) (item : List Char) (x : Fault) :
    l.itemProblem? item = .error x ↔ x = .wrongValue ∧ IsOverlong item := by
  unfold itemProblem? IsOverlong signedValue?
  by_cases hs : isSignedDigits item = true
  · by_cases hl : (signOf item).2.length ≤ digitLimit
    · simp [hs, hl]
    · simp [hs, hl, Nat.lt_of_not_le hl, eq_comm]
  · simp [hs]

theorem firstProblem?_eq_error_iff {α : Type} (test : α → Except Fault (Option PartProblem))
    (as : List α) (x : Fault) : firstProblem? test as = .error x ↔
      ∃ before a after, as = before ++ a :: after ∧ (∀ b ∈ before, test b = .ok none) ∧
        test a = .error x := by
  induction as with
  | nil => simp [firstProblem?]
  | cons a as ih =>
    -- either the head fails, or it is in order and the search fails behind it
    have hsplit : (∃ before c after, a :: as = before ++ c :: after ∧
        (∀ b ∈ before, test b = .ok none) ∧ test c = .error x) ↔
        test a = .error x ∨ test a = .ok none ∧ firstProblem? test as = .error x := by
      rw [ih]
      constructor
      · rintro ⟨before, c, after, hs, hb, hc⟩
        cases before with
        | nil =>
          rw [List.nil_append, List.cons.injEq] at hs
          exact .inl (hs.1 ▸ hc)
        | cons b before =>
          rw [List.cons_append, List.cons.injEq] at hs
          obtain ⟨hb, hbs⟩ := List.forall_mem_cons.1 hb
          exact .inr ⟨hs.1 ▸ hb, before, c, after, hs.2, hbs, hc⟩
      · rintro (ha | ⟨ha, before, c, after, rfl, hb, hc⟩)
        · exact ⟨[], a, as, rfl, by simp, ha⟩
        · exact ⟨a :: before, c, after, rfl, List.forall_mem_cons.2 ⟨ha, hb⟩, hc⟩
    rw [hsplit, firstProblem?]
    cases ha : test a with
    | error y => simp [bind, Except.bind]
    | ok o =>
      cases o with
      | none => simp [bind, Except.bind]
      | some p => simp [bind, Except.bind, pure, Except.pure]

theorem Limits.stumbles_iff (l : Limits) (value : List Char) (x : Fault) :
    firstProblem? l.itemProblem? (cutAt ',' value) = .error x ↔
      x = .wrongValue ∧ l.Stumbles value := by
  rw [firstProblem?_eq_error_iff]
  simp only [itemProblem?_eq_none_iff, itemProblem?_eq_error_iff]
  constructor
  · rintro ⟨before, item, after, hs, hb, hx, hl⟩
    exact ⟨hx, before, item, after, hs, hb, hl⟩
  · rintro ⟨hx, before, item, after, hs, hb, hl⟩
    exact ⟨before, item, after, hs, hb, hx, hl⟩

theorem Limits.problem?_eq_error_iff (ps : List Part) (l : Limits) (x : Fault) :
    l.problem? ps = .error x ↔
      x = .wrongValue ∧ ∃ p, IsLast ps p ∧ p.name = l.name.toList ∧ l.Stumbles p.value := by
  have hv := valueOf?_eq_some_iff l.name ps
  unfold Limits.problem?
  cases h : valueOf? l.name ps with
  | none =>
    refine iff_of_false nofun ?_
    rintro ⟨-, p, hp, hn, -⟩
    have hs := (hv p.value).2 ⟨p, hp, hn, rfl⟩
    rw [h] at hs
    cases hs
  | some v =>
    rw [h] at hv
    simp only [Limits.stumbles_iff]
    refine and_congr_right fun _ => ⟨fun hl => ?_, ?_⟩
    · obtain ⟨p, hp, hn, rfl⟩ := (hv v).1 rfl
      exact ⟨p, hp, hn, hl⟩
    · rintro ⟨p, hp, hn, hl⟩
      obtain rfl := Option.some.inj ((hv p.value).2 ⟨p, hp, hn, rfl⟩)
      exact hl

theorem problem?_eq_error_iff (ps : List Part) (x : Fault) :
    problem? ps = .error x ↔ x = .wrongValue ∧ Stumbles ps := by
  unfold problem?
  split
  · rename_i h
    rw [Bool.and_eq_true, valueOf?_isSome_iff, valueOf?_isSome_iff] at h
    exact iff_of_false nofun fun hs => hs.2.single h
  · rename_i h
    rw [Bool.and_eq_true, valueOf?_isSome_iff, valueOf?_isSome_iff] at h
    rw [firstProblem?_eq_error_iff]
    simp only [Limits.problem?_eq_none_iff, Limits.problem?_eq_error_iff]
    constructor
    · rintro ⟨early, l, late, hl, he, hx, hp⟩
      exact ⟨hx, h, early, l, late, hl, he, hp⟩
    · rintro ⟨hx, -, early, l, late, hl, he, hp⟩
      exact ⟨early, l, late, hl, he, hx, hp⟩

theorem checkWith_of_overlong (read : Reading) {t : List Char} (h : Overlong t) :
    checkWith read t = .error .wrongValue := by
  obtain ⟨ps, hp, hs⟩ := h
  have hproblem := (problem?_eq_error_iff ps .wrongValue).2 ⟨rfl, hs⟩
  rw [checkWith, hp]
  simp [hproblem, bind, Except.bind]

theorem checkWith_of_not_overlong {read : Reading} {t : List Char} (h : ¬ Overlong t)
    (hread : ∀ f, read (body t) = .error f → f.reason? ≠ none) :
    ∃ c, checkWith read t = .ok c := by
  unfold checkWith
  cases hp : parts? t with
  | none => exact ⟨parseError, rfl⟩
  | some ps =>
    dsimp only
    cases hproblem : problem? ps with
    | error x => exact absurd ⟨ps, hp, ((problem?_eq_error_iff ps x).1 hproblem).2⟩ h
    | ok o =>
      cases o with
      | some p => exact ⟨.invalid p.reason, rfl⟩
      | none =>
        cases hr : read (body t) with
        | ok u => exact ⟨.valid, rfl⟩
        | error f =>
          obtain ⟨reason, hf⟩ := Option.ne_none_iff_exists'.1 (hread f hr)
          exact ⟨.invalid reason, by simp [bind, Except.bind, checkFlaw, hf]⟩

theorem not_overlong_of_blanks {t : List Char} (h : Blanks t) : ¬ Overlong t := by
  rintro ⟨ps, hp, -⟩
  have hb : body t = [] := by
    rw [body, trim_eq_nil_iff.2 h]
    rfl
  rw [parts?, hb] at hp
  cases hp

theorem body_sublist (t : List Char) : (body t).Sublist t := by
  unfold body
  dsimp only
  split
  · exact (List.drop_sublist _ _).trans (trim_sublist t)
  · exact trim_sublist t

theorem signOf_sublist (t : List Char) : (signOf t).2.Sublist t := by
  unfold signOf
  split
  · exact List.sublist_cons_self _ _
  · exact List.sublist_cons_self _ _
  · exact List.Sublist.refl _

theorem value_of_mem {t : List Char} {ps : List Part} (hp : parts? t = some ps) {p : Part}
    (h : p ∈ ps) : ∃ v, p.value = upper v ∧ v.Sublist t := by
  have hmap : (cutAt ';' (body t)).map part? = ps.map some := (mapM_part hp).2 _ _ fun _ _ hq => hq
  have hm : some p ∈ (cutAt ';' (body t)).map part? := hmap ▸ List.mem_map_of_mem h
  obtain ⟨q, hq, hpart⟩ := List.mem_map.1 hm
  obtain ⟨n, v, hpair⟩ := part?_pair hpart
  have hv : v.Sublist (trim q) := by
    rw [hpair.text]
    exact (List.sublist_cons_self _ _).trans (List.sublist_append_right _ _)
  refine ⟨v, by rw [hpair.part], hv.trans ?_⟩
  exact (trim_sublist q).trans ((sublist_of_mem_cutAt hq).trans (body_sublist t))

theorem not_overlong_of_length {t : List Char} (h : t.length ≤ digitLimit) : ¬ Overlong t := by
  rintro ⟨ps, hp, hs⟩
  obtain ⟨-, -, -, -, -, p, ⟨before, after, hps, -⟩, -, first, item, rest, hc, -, hl⟩ := hs.list
  obtain ⟨v, hv, hsub⟩ := value_of_mem hp (p := p) (by simp [hps])
  have hitem : item.Sublist (upper v) := by
    have hm : item ∈ cutAt ',' p.value := by simp [hc]
    rw [← hv]
    exact sublist_of_mem_cutAt hm
  -- upper case makes no digits, so that those of the item stand in the text
  have hdigits : (signOf item).2.countP isDigit = (signOf item).2.length := by
    have hall := hl.1
    rw [isSignedDigits, Bool.and_eq_true, List.all_eq_true] at hall
    exact List.countP_eq_length.2 hall.2
  have hcount := ((signOf_sublist item).trans hitem).countP_le (p := isDigit)
  have hupper := countP_upper_le v
  have hlength := hsub.length_le
  have hlong := hl.2
  omega

theorem trim_solid {t : List Char} (h : Solid t) : trim t = t := by
  cases t with
  | nil => rfl
  | cons c t => simpa using trim_of_solid blanks_nil blanks_nil (List.cons_ne_nil c t) h

theorem parts?_hours {v : List Char} (hs : Solid v) (hu : upper v = v) (hv : isValue v = true) :
    parts? ("FREQ=DAILY;BYHOUR=".toList ++ v) =
      some [⟨"FREQ".toList, "DAILY".toList⟩, ⟨"BYHOUR".toList, v⟩] := by
  have hsolid : Solid ("FREQ=DAILY;BYHOUR=".toList ++ v) := solid_append.2 ⟨by decide, hs⟩
  have hbody : body ("FREQ=DAILY;BYHOUR=".toList ++ v) = "FREQ=DAILY;BYHOUR=".toList ++ v := by
    rw [body, trim_solid hsolid]
    rfl
  have hcut : cutAt ';' ("FREQ=DAILY".toList ++ ';' :: ("BYHOUR=".toList ++ v)) =
      ["FREQ=DAILY".toList, "BYHOUR=".toList ++ v] := by
    have hsemicolon : ';' ∉ "BYHOUR=".toList ++ v := by
      simpa using ((isValue_iff v).1 hv).2.2
    rw [cutAt_cons (by decide), cutAt_of_not_mem hsemicolon]
  have hhours : part? ("BYHOUR=".toList ++ v) = some ⟨"BYHOUR".toList, v⟩ := by
    have htext : trim ("BYHOUR=".toList ++ v) = "BYHOUR".toList ++ '=' :: v :=
      trim_solid (solid_append.2 ⟨by decide, hs⟩)
    have hupper : upper "BYHOUR".toList = "BYHOUR".toList := by decide
    rw [part?_of_text htext (by decide) hv, hupper, hu]
  have hdaily : part? "FREQ=DAILY".toList = some ⟨"FREQ".toList, "DAILY".toList⟩ := by decide
  rw [parts?, hbody]
  refine (congrArg (List.mapM part?) hcut).trans ?_
  rw [List.mapM_cons, List.mapM_cons, hdaily, hhours]
  rfl

theorem overlong_hours {v : List Char} (hs : Solid v) (hu : upper v = v) (hv : isValue v = true)
    (hc : ',' ∉ v) (hl : IsOverlong v) : Overlong ("FREQ=DAILY;BYHOUR=".toList ++ v) := by
  have hlast : IsLast [⟨"FREQ".toList, "DAILY".toList⟩, ⟨"BYHOUR".toList, v⟩]
      ⟨"BYHOUR".toList, v⟩ := ⟨[⟨"FREQ".toList, "DAILY".toList⟩], [], rfl, by simp⟩
  have hnames : ∀ p, p ∈ [(⟨"FREQ".toList, "DAILY".toList⟩ : Part), ⟨"BYHOUR".toList, v⟩] →
      p.name = "FREQ".toList ∨ p.name = "BYHOUR".toList := by simp
  refine ⟨_, parts?_hours hs hu hv, ⟨?_, limits.take 2, ⟨"BYHOUR", 0, 23, false⟩, limits.drop 3,
    rfl, ?_, _, hlast, rfl, [], v, [], cutAt_of_not_mem hc, by simp, hl⟩⟩
  · rintro ⟨⟨p, hp, hn⟩, -⟩
    rcases hnames p hp with h | h
    · exact absurd (hn.symm.trans h) (by decide)
    · exact absurd (hn.symm.trans h) (by decide)
  · -- the limits before that for hours have no part here
    have early : ∀ k ∈ limits.take 2, k.name.toList ≠ "FREQ".toList ∧
        k.name.toList ≠ "BYHOUR".toList := by decide
    rintro k hk p ⟨before, after, hps, -⟩ hn
    have hp : p ∈ [(⟨"FREQ".toList, "DAILY".toList⟩ : Part), ⟨"BYHOUR".toList, v⟩] :=
      hps ▸ List.mem_append_right before List.mem_cons_self
    rcases hnames p hp with h | h
    · exact absurd (hn.symm.trans h) (early k hk).1
    · exact absurd (hn.symm.trans h) (early k hk).2

end Scrutiny.Recurrence
