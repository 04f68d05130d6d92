import Scrutiny.Recurrence.Check

/-!
# Parts within their limits

A rule is valid if it is cut into parts, gives a count or an end and not both, keeps the integers
that its parts list within their limits, and can be read. Of several parts with one name only the
last is looked at, so that an earlier one may list what it likes: what is said of the last parts
holds of all parts where no name comes twice.
-/

set_option autoImplicit false

namespace Scrutiny.Recurrence

open Text

namespace Limits

def Admits (l : Limits) (n : Int) : Prop :=
  l.low ≤ n ∧ n ≤ l.high ∨ l.signed = true ∧ l.low ≤ -n ∧ -n ≤ l.high

instance (l : Limits) (n : Int) : Decidable (l.Admits n) :=
  inferInstanceAs (Decidable (_ ∨ _))

/-- A text lists admitted integers, with commas between them. -/
def Lists (l : Limits) (value : List Char) : Prop :=
  ∀ item ∈ cutAt ',' value,
    isSignedDigits item = true ∧ ∃ n, signedValue? item = some n ∧ l.Admits n

theorem integerProblem?_eq_none_iff (l : Limits) (n : Int) :
    l.integerProblem? n = none ↔ l.Admits n := by
  unfold integerProblem? Admits
  cases l.signed with
  | true =>
    by_cases h : l.low ≤ n.natAbs ∧ n.natAbs ≤ l.high
    · simp [h]
      omega
    · simp [h]
      omega
  | false =>
    by_cases hn : n < 0
    · simp [hn]
      omega
    · by_cases h : l.low ≤ n.natAbs ∧ n.natAbs ≤ l.high
      · simp [hn, h]
        omega
      · simp [hn, h]
        omega

theorem itemProblem?_eq_none_iff (l : Limits) (item : List Char) :
    l.itemProblem? item = .ok none ↔
      isSignedDigits item = true ∧ ∃ n, signedValue? item = some n ∧ l.Admits n := by
  unfold itemProblem?
  cases isSignedDigits item with
  | false => simp
  | true =>
    cases signedValue? item with
    | none => simp
    | some n => simp [integerProblem?_eq_none_iff]

end Limits

theorem firstProblem?_eq_none_iff {α : Type} (test : α → Except Fault (Option PartProblem))
    (as : List α) : firstProblem? test as = .ok none ↔ ∀ a ∈ as, test a = .ok none := by
  induction as with
  | nil => simp [firstProblem?]
  | cons a as ih =>
    rw [List.forall_mem_cons, ← ih, firstProblem?]
    cases h : test a with
    | error f => simp [bind, Except.bind]
    | ok o =>
      cases o with
      | none => simp [bind, Except.bind]
      | some p => simp [bind, Except.bind, pure, Except.pure]

theorem Limits.lists_iff (l : Limits) (value : List Char) :
    firstProblem? l.itemProblem? (cutAt ',' value) = .ok none ↔ l.Lists value := by
  rw [firstProblem?_eq_none_iff, Limits.Lists]
  simp only [itemProblem?_eq_none_iff]

def Names (ps : List Part) (name : String) : Prop := ∃ p ∈ ps, p.name = name.toList

def IsLast (ps : List Part) (p : Part) : Prop :=
  ∃ before after, ps = before ++ p :: after ∧ ∀ q ∈ after, q.name ≠ p.name

theorem isLast_of_nodup {ps : List Part} (h : (ps.map Part.name).Nodup) {p : Part}
    (hp : p ∈ ps) : IsLast ps p := by
  obtain ⟨before, after, rfl⟩ := List.append_of_mem hp
  refine ⟨before, after, rfl, fun q hq e => ?_⟩
  rw [List.map_append, List.map_cons, List.nodup_append] at h
  exact (List.nodup_cons.1 h.2.1).1 (e ▸ List.mem_map_of_mem hq)

theorem valueOf?_isSome_iff (name : String) (ps : List Part) :
    (valueOf? name ps).isSome = true ↔ Names ps name := by
  simp [valueOf?, Names]

theorem valueOf?_eq_some_iff (name : String) (ps : List Part) (v : List Char) :
    valueOf? name ps = some v ↔ ∃ p, IsLast ps p ∧ p.name = name.toList ∧ p.value = v := by
  simp only [valueOf?, Option.map_eq_some_iff, List.find?_eq_some_iff_append, decide_eq_true_eq]
  constructor
  · rintro ⟨p, ⟨hp, late, early, hps, hl⟩, hv⟩
    refine ⟨p, ⟨early.reverse, late.reverse, ?_, fun q hq => ?_⟩, hp, hv⟩
    · have hr := congrArg List.reverse hps
      simpa using hr
    · have hn := hl q (List.mem_reverse.1 hq)
      rw [hp]
      simpa using hn
  · rintro ⟨p, ⟨before, after, rfl, hl⟩, hp, hv⟩
    refine ⟨p, ⟨hp, after.reverse, before.reverse, by simp, fun q hq => ?_⟩, hv⟩
    have hn := hl q (List.mem_reverse.1 hq)
    rw [hp] at hn
    simpa using hn

/-- What the parts of a rule have to keep to: the last of each name stays within the limits of
that name, and there is no count beside an end. -/
structure Keeps (ps : List Part) : Prop where
  single : ¬ (Names ps "COUNT" ∧ Names ps "UNTIL")
  within : ∀ l ∈ limits, ∀ p, IsLast ps p → p.name = l.name.toList → l.Lists p.value

theorem Limits.problem?_eq_none_iff (ps : List Part) (l : Limits) :
    l.problem? ps = .ok none ↔ ∀ p, IsLast ps p → p.name = l.name.toList → l.Lists p.value := by
  have hv := valueOf?_eq_some_iff l.name ps
  unfold Limits.problem?
  cases h : valueOf? l.name ps with
  | none =>
    refine ⟨fun _ p hp hn => ?_, fun _ => rfl⟩
    have hs := (hv p.value).2 ⟨p, hp, hn, rfl⟩
    rw [h] at hs
    cases hs
  | some v =>
    rw [h] at hv
    simp only [Limits.lists_iff]
    constructor
    · intro hl p hp hn
      obtain rfl := Option.some.inj ((hv p.value).2 ⟨p, hp, hn, rfl⟩)
      exact hl
    · intro hall
      obtain ⟨p, hp, hn, rfl⟩ := (hv v).1 rfl
      exact hall p hp hn

theorem problem?_eq_none_iff (ps : List Part) : problem? ps = .ok none ↔ Keeps ps := by
  unfold problem?
  split
  · rename_i h
    rw [Bool.and_eq_true, valueOf?_isSome_iff, valueOf?_isSome_iff] at h
    exact ⟨fun e => (nomatch e), fun k => absurd h k.single⟩
  · rename_i h
    rw [Bool.and_eq_true, valueOf?_isSome_iff, valueOf?_isSome_iff] at h
    rw [firstProblem?_eq_none_iff]
    simp only [Limits.problem?_eq_none_iff]
    exact ⟨fun hw => ⟨h, hw⟩, fun k => k.within⟩

theorem ok_of_toOption {α : Type} {x : Except Fault α} {a : α} (h : x.toOption = some a) :
    x = .ok a := by
  cases x with
  | error f => cases h
  | ok b => rw [Option.some.inj h]

theorem checkFlaw_ne_valid (f : Flaw) : checkFlaw f ≠ .ok .valid := by
  unfold checkFlaw
  split <;> simp [Check.valid, Check.invalid]

theorem checkWith_eq_valid_iff (read : Reading) (t : List Char) :
    checkWith read t = .ok .valid ↔
      ∃ ps, parts? t = some ps ∧ problem? ps = .ok none ∧ read (body t) = .ok () := by
  unfold checkWith
  cases parts? t with
  | none => simp [pure, Except.pure, parseError, Check.valid]
  | some ps =>
    cases hp : problem? ps with
    | error f => simp [bind, Except.bind, hp]
    | ok o =>
      cases o with
      | some p => simp [bind, Except.bind, pure, Except.pure, hp, Check.valid, Check.invalid]
      | none =>
        cases hr : read (body t) with
        | ok u => simp [bind, Except.bind, pure, Except.pure, hp]
        | error f => simp [bind, Except.bind, hp, checkFlaw_ne_valid]

/-- Whatever can be read, a rule is valid exactly if it is read and its parts keep to their
limits, of several parts with one name the last. If no name comes twice, that is every part. -/
theorem valid_iff_keeps (read : Reading) (t : List Char) :
    (checkWith read t = .ok .valid ↔
      ∃ ps, parts? t = some ps ∧ Keeps ps ∧ read (body t) = .ok ()) ∧
    (checkWith read t = .ok .valid → ∀ ps, parts? t = some ps → (ps.map Part.name).Nodup →
      ∀ l ∈ limits, ∀ p ∈ ps, p.name = l.name.toList → l.Lists p.value) := by
  have hv := checkWith_eq_valid_iff read t
  simp only [problem?_eq_none_iff] at hv
  refine ⟨hv, fun h ps hps hn l hl p hp => ?_⟩
  obtain ⟨qs, hqs, hk, -⟩ := hv.1 h
  obtain rfl := Option.some.inj (hps.symm.trans hqs)
  exact hk.within l hl p (isLast_of_nodup hn hp)

theorem valid_keeps_month_days :
    let t := "rrule:freq=monthly;bymonthday=-1,+15;count=3".toList
    let days : Limits := ⟨"BYMONTHDAY", 1, 31, true⟩
    check t = .ok .valid ∧ days.Lists "-1,+15".toList := by
  intro t days
  have hc : check t = .ok .valid := ok_of_toOption (by decide +kernel)
  have hp : parts? t = some [⟨"FREQ".toList, "MONTHLY".toList⟩,
      ⟨"BYMONTHDAY".toList, "-1,+15".toList⟩, ⟨"COUNT".toList, "3".toList⟩] := by rfl
  refine ⟨hc, (valid_iff_keeps read t).2 hc _ hp (by decide) days ?_
    ⟨"BYMONTHDAY".toList, "-1,+15".toList⟩ (by simp) rfl⟩
  simp [limits, days]

/-- An hour that no day has goes unseen before another list of hours, and so it is not true that
the parts of a valid rule all keep to their limits. -/
theorem repeated_part_unseen :
    let t := "FREQ=DAILY;BYHOUR=99;BYHOUR=5".toList
    let hours : Limits := ⟨"BYHOUR", 0, 23, false⟩
    let p : Part := ⟨"BYHOUR".toList, "99".toList⟩
    check t = .ok .valid ∧ hours ∈ limits ∧
      ∃ ps, parts? t = some ps ∧ p ∈ ps ∧ p.name = hours.name.toList ∧ ¬ hours.Lists p.value := by
  intro t hours p
  have hc : check t = .ok .valid := ok_of_toOption (by decide +kernel)
  have hp : parts? t =
      some [⟨"FREQ".toList, "DAILY".toList⟩, p, ⟨"BYHOUR".toList, "5".toList⟩] := by rfl
  refine ⟨hc, by simp [limits, hours], _, hp, by simp, rfl, fun h => ?_⟩
  cases (hours.lists_iff p.value).2 h

end Scrutiny.Recurrence
