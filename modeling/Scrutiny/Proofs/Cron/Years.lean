import Scrutiny.Proofs.Cron.Fields
import Scrutiny.Proofs.Cron.Spans

/-!
# How years are written

The field for years is a list of stars, years and ranges of years. Any of these may have a step,
which is any run of digits and is not looked at as a number. So a step of zero is taken, although
the field for days of the week, which is written in the same way, has no such steps.
-/

set_option autoImplicit false

namespace Scrutiny.Cron

open Text

structure IsRun (t : List Char) : Prop where
  nonempty : t ≠ []
  digits : ∀ c ∈ t, isDigit c = true

theorem IsRun.not_mem {n : List Char} (h : IsRun n) {x : Char} (hx : isDigit x = false) : x ∉ n :=
  Decimal.not_mem_digits hx (List.all_eq_true.2 h.digits)

theorem isDigits_iff {t : List Char} : isDigits t = true ↔ IsRun t := by
  rw [isDigits, Bool.and_eq_true, List.all_eq_true]
  constructor
  · intro h
    exact ⟨by simpa using h.1, h.2⟩
  · intro h
    exact ⟨by simpa using h.nonempty, h.digits⟩

theorem Counts.isRun {n : List Char} (h : Counts isDigit n) : IsRun n := by
  refine ⟨?_, fun c hc => ?_⟩
  · rintro rfl
    cases h
  · rcases h.digits hc with hd | hd
    · exact Decimal.isDigit_of_ascii hd
    · exact hd

namespace Years
variable {ys : Years} {t : List Char}

structure Has (ys : Years) (y : List Char) : Prop where
  length : y.length = 4
  digits : ∀ c ∈ y, isDigit c = true
  first : ys.first ≤ positional y
  last : positional y ≤ ys.last

/-- An item: a star, a year or two years in their order, with or without a step. -/
def Item (ys : Years) (step : List Char → Prop) : List Char → Prop :=
  Stepped ys.Has (fun y z => positional y ≤ positional z) step

theorem year?_eq_some {y : List Char} {k : Int} :
    year? y = some k ↔ y.length = 4 ∧ (∀ c ∈ y, isDigit c = true) ∧ (positional y : Int) = k := by
  rw [year?, Option.ite_none_right_eq_some, Option.some.injEq, List.all_eq_true, and_assoc]

theorem has_iff {y : List Char} : ys.Has y ↔ ∃ k, year? y = some k ∧ ys.holds k = true := by
  simp only [year?_eq_some, holds, Bool.and_eq_true, decide_eq_true_eq]
  constructor
  · intro h
    exact ⟨_, ⟨h.length, h.digits, rfl⟩, h.first, h.last⟩
  · rintro ⟨k, ⟨hl, hd, rfl⟩, hf, hk⟩
    exact ⟨hl, hd, hf, hk⟩

theorem Has.not_mem {y : List Char} (h : ys.Has y) {x : Char} (hx : isDigit x = false) : x ∉ y :=
  Decimal.not_mem_digits hx (List.all_eq_true.2 h.digits)

theorem takesSpan_iff : ys.takesSpan t = true ↔
    Followed '-' ys.Has (fun y z => ys.Has y ∧ ys.Has z ∧ positional y ≤ positional z) t := by
  have hdash : isDigit '-' = false := by decide
  rw [takesSpan]
  split
  case h_1 a hc =>
    rw [followed_of_cut_none hc, has_iff]
    cases year? a <;> simp
  case h_2 a b hc =>
    rw [followed_of_cut_some (fun _ h => h.not_mem hdash) (fun _ _ h => h.1.not_mem hdash) hc]
    rcases hy : year? a with _ | k
    · simp [has_iff, hy]
    rcases hz : year? b with _ | l
    · simp [has_iff, hz]
    obtain ⟨-, -, rfl⟩ := year?_eq_some.1 hy
    obtain ⟨-, -, rfl⟩ := year?_eq_some.1 hz
    simp [has_iff, hy, hz, and_assoc]

theorem item_iff {step : List Char → Prop} : ys.Item step t ↔
    ((cutOnce '/' t).1 = ['*'] ∨ ys.takesSpan (cutOnce '/' t).1 = true) ∧
      ∀ n ∈ (cutOnce '/' t).2, step n := by
  rw [Item, stepped_iff fun _ h => h.not_mem (by decide), Spans, takesSpan_iff]

theorem takesItem_iff : ys.takesItem t = true ↔ ys.Item IsRun t := by
  rw [item_iff, takesItem]
  rcases cutOnce '/' t with ⟨s, _ | n⟩
  · simp
  · simp [isDigits_iff, and_comm]

theorem Item.no_comma {step : List Char → Prop} (hs : ∀ n, step n → IsRun n)
    (h : ys.Item step t) : ',' ∉ t := by
  have hcomma : isDigit ',' = false := by decide
  intro hm
  rcases Stepped.mem h hm with ⟨y, hy, hc⟩ | ⟨n, hn, hc⟩ | hc
  · exact hy.not_mem hcomma hc
  · exact (hs n hn).not_mem hcomma hc
  · exact absurd hc (by decide)

theorem takes_iff_lists (ys : Years) (t : List Char) :
    ys.takes t = true ↔ Lists ',' (ys.Item IsRun) t := by
  rw [takes_iff, lists_iff fun _ h => h.no_comma fun _ hn => hn]
  exact forall₂_congr fun _ _ => takesItem_iff

theorem lists_iff_takes {step : List Char → Prop} (hs : ∀ n, step n → IsRun n) :
    Lists ',' (ys.Item step) t ↔
      ys.takes t = true ∧ ∀ item ∈ cutAt ',' t, ∀ n ∈ (cutOnce '/' item).2, step n := by
  rw [takes_iff, lists_iff fun _ h => h.no_comma hs]
  simp only [takesItem_iff, item_iff]
  constructor
  · intro h
    exact ⟨fun i hi => ⟨(h i hi).1, fun n hn => hs n ((h i hi).2 n hn)⟩, fun i hi => (h i hi).2⟩
  · intro h i hi
    exact ⟨(h.1 i hi).1, h.2 i hi⟩

end Years

/-- Whatever years are allowed, the field for years is taken if it is a list of stars, years and
ranges of years, with any steps. The lists of these that count by steps are those that have nothing
but a number above zero behind a slash. -/
theorem years_listed (ys : Years) (t : List Char) :
    (ys.takes t = true ↔ Lists ',' (ys.Item IsRun) t) ∧
      (Lists ',' (ys.Item (Counts isDigit)) t ↔ ys.takes t = true ∧
        ∀ item ∈ cutAt ',' t, ∀ n ∈ (cutOnce '/' item).2, Counts isDigit n) :=
  ⟨ys.takes_iff_lists t, Years.lists_iff_takes fun _ hn => hn.isRun⟩

example : Years.takes ⟨1970, 2199⟩ "*/2,2030,2024-2030/5".toList = true := by decide

/-- A step of zero is taken, and the expression is valid. -/
theorem zero_step_taken :
    let ys : Years := ⟨1970, 2199⟩
    ys.takes "2030/0".toList = true ∧ check ys "0 0 12 * * ? 2030/0".toList = .valid ∧
      ¬ Lists ',' (ys.Item (Counts isDigit)) "2030/0".toList := by
  intro ys
  refine ⟨by decide, by decide +kernel, fun h => ?_⟩
  have hsteps := ((Years.lists_iff_takes fun _ hn => hn.isRun).1 h).2
  cases hsteps "2030/0".toList (by decide) ['0'] rfl with
  | mk low => exact absurd low (by decide)

end Scrutiny.Cron
