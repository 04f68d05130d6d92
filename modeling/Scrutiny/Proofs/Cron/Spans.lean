import Scrutiny.Proofs.Decimal.Numeral
import Scrutiny.Proofs.Text.Listed

/-!
# Spans and steps

Years and days of the week are written in one way: a star, a year or day, or two of them with a dash
between, and behind any of these a slash and a step. What differs is what counts as a year or a day,
whether two of them have to be in order, and what a step may be.
-/

set_option autoImplicit false

namespace Scrutiny.Cron

open Text

/-- A number for a step: its first digit is from one to nine, the others are such as allowed. -/
inductive Counts (digit : Char → Bool) : List Char → Prop where
  | mk {c : Char} {r : List Char} (low : '1' ≤ c) (high : c ≤ '9')
      (rest : ∀ d ∈ r, digit d = true) : Counts digit (c :: r)

def Spans (part : List Char → Prop) (order : List Char → List Char → Prop) (t : List Char) : Prop :=
  t = ['*'] ∨ Followed '-' part (fun a b => part a ∧ part b ∧ order a b) t

def Stepped (part : List Char → Prop) (order : List Char → List Char → Prop)
    (step : List Char → Prop) (t : List Char) : Prop :=
  Followed '/' (Spans part order) (fun s n => Spans part order s ∧ step n) t

theorem isDigit_of_le {c : Char} (low : '1' ≤ c) (high : c ≤ '9') : c.isDigit = true := by
  have hlow : 49 ≤ c.toNat := low
  exact Decimal.asciiDigit_iff.2 ⟨Nat.le_of_succ_le hlow, high⟩

theorem Counts.digits {digit : Char → Bool} {n : List Char} (h : Counts digit n) {c : Char}
    (hc : c ∈ n) : c.isDigit = true ∨ digit c = true := by
  cases h with
  | mk low high rest =>
    rcases List.mem_cons.1 hc with rfl | hc
    · exact .inl (isDigit_of_le low high)
    · exact .inr (rest c hc)

variable {part : List Char → Prop} {order : List Char → List Char → Prop}
  {step : List Char → Prop} {t : List Char}

theorem Spans.mem (h : Spans part order t) {c : Char} (hc : c ∈ t) :
    (∃ p, part p ∧ c ∈ p) ∨ c = '*' ∨ c = '-' := by
  rcases h with rfl | h | ⟨ha, hb, -⟩
  · exact .inr (.inl (List.mem_singleton.1 hc))
  · exact .inl ⟨t, h, hc⟩
  · rcases List.mem_append.1 hc with hc | hc
    · exact .inl ⟨_, ha, hc⟩
    · rcases List.mem_cons.1 hc with rfl | hc
      · exact .inr (.inr rfl)
      · exact .inl ⟨_, hb, hc⟩

theorem Stepped.mem (h : Stepped part order step t) {c : Char} (hc : c ∈ t) :
    (∃ p, part p ∧ c ∈ p) ∨ (∃ n, step n ∧ c ∈ n) ∨ c ∈ ['*', '-', '/'] := by
  have of_span : ∀ {s}, Spans part order s → c ∈ s →
      (∃ p, part p ∧ c ∈ p) ∨ (∃ n, step n ∧ c ∈ n) ∨ c ∈ ['*', '-', '/'] := by
    intro s hs hc
    rcases hs.mem hc with hp | rfl | rfl
    · exact .inl hp
    · exact .inr (.inr (by decide))
    · exact .inr (.inr (by decide))
  rcases h with h | ⟨hs, hn⟩
  · exact of_span h hc
  · rcases List.mem_append.1 hc with hc | hc
    · exact of_span hs hc
    · rcases List.mem_cons.1 hc with rfl | hc
      · exact .inr (.inr (by decide))
      · exact .inr (.inl ⟨_, hn, hc⟩)

theorem Spans.imp {part' : List Char → Prop} (hp : ∀ p ⊆ t, part p → part' p)
    (h : Spans part order t) : Spans part' order t := by
  rcases h with rfl | h | @⟨a, b, ha, hb, ho⟩
  · exact .inl rfl
  · exact .inr (.alone (hp t (List.Subset.refl t) h))
  · have hl := hp a (List.subset_append_left a _) ha
    have hsub := List.Subset.trans (List.subset_cons_self '-' b) (List.subset_append_right a _)
    have hr := hp b hsub hb
    exact .inr (.both ⟨hl, hr, ho⟩)

theorem Stepped.imp {part' step' : List Char → Prop} (hp : ∀ p ⊆ t, part p → part' p)
    (hs : ∀ n ⊆ t, step n → step' n) (h : Stepped part order step t) :
    Stepped part' order step' t := by
  rcases h with h | @⟨s, n, h, hn⟩
  · exact .alone (h.imp hp)
  · have hl := List.subset_append_left s ('/' :: n)
    have hr := List.Subset.trans (List.subset_cons_self '/' n) (List.subset_append_right s _)
    exact .both ⟨h.imp fun p hsub => hp p (List.Subset.trans hsub hl), hs n hr hn⟩

theorem stepped_iff (hp : ∀ p, part p → '/' ∉ p) :
    Stepped part order step t ↔
      Spans part order (cutOnce '/' t).1 ∧ ∀ n ∈ (cutOnce '/' t).2, step n := by
  have hs : ∀ s, Spans part order s → '/' ∉ s := by
    intro s h hm
    rcases h.mem hm with ⟨p, hpart, hc⟩ | hc | hc
    · exact hp p hpart hc
    · exact absurd hc (by decide)
    · exact absurd hc (by decide)
  rcases hc : cutOnce '/' t with ⟨s, _ | n⟩
  · rw [Stepped, followed_of_cut_none hc]
    simp
  · rw [Stepped, followed_of_cut_some hs (fun _ _ h => hs _ h.1) hc]
    simp

end Scrutiny.Cron
