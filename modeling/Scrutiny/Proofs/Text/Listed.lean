import Scrutiny.Proofs.Text.Words

/-!
# Texts made of parts

Parts are put together with a mark between them: as a list of one item or more, or as a text that
stands alone or has one other behind a mark. Cutting at the mark finds the parts again as long as
what stands before a mark does not hold it.
-/

set_option autoImplicit false

namespace Scrutiny.Text

/-- One item or more with a mark between them. -/
def Lists (x : Char) (item : List Char → Prop) (t : List Char) : Prop :=
  ∃ items, items ≠ [] ∧ (∀ i ∈ items, item i) ∧ t = glue [x] items

inductive Followed (x : Char) (alone : List Char → Prop) (both : List Char → List Char → Prop) :
    List Char → Prop where
  | alone {a : List Char} : alone a → Followed x alone both a
  | both {a b : List Char} : both a b → Followed x alone both (a ++ x :: b)

variable {x : Char}

theorem lists_iff {item : List Char → Prop} (h : ∀ i, item i → x ∉ i) (t : List Char) :
    Lists x item t ↔ ∀ i ∈ cutAt x t, item i := by
  constructor
  · rintro ⟨items, hne, hi, rfl⟩
    rw [cutAt_glue hne fun i hm => h i (hi i hm)]
    exact hi
  · intro hi
    exact ⟨cutAt x t, cutAt_ne_nil x t, hi, (glue_cutAt x t).symm⟩

theorem Lists.mem {item : List Char → Prop} {t : List Char} (h : Lists x item t) {c : Char}
    (hc : c ∈ t) : c = x ∨ ∃ i, item i ∧ c ∈ i := by
  obtain ⟨items, -, hi, rfl⟩ := h
  induction items with
  | nil => simp [glue] at hc
  | cons i items ih =>
    obtain ⟨hfirst, hrest⟩ := List.forall_mem_cons.1 hi
    cases items with
    | nil =>
      rw [glue_single] at hc
      exact .inr ⟨i, hfirst, hc⟩
    | cons j items =>
      rw [glue_cons_cons] at hc
      rcases List.mem_append.1 hc with hc | hc
      · exact .inr ⟨i, hfirst, hc⟩
      · rcases List.mem_cons.1 hc with rfl | hc
        · exact .inl rfl
        · exact ih hrest hc

section
variable {alone : List Char → Prop} {both : List Char → List Char → Prop} {t a b : List Char}

theorem followed_of_cut_none (h : cutOnce x t = (a, none)) : Followed x alone both t ↔ alone a := by
  have hx : x ∉ t := (cutOnce_none_iff x t).1 (by rw [h])
  obtain rfl : t = a := congrArg Prod.fst ((cutOnce_of_not_mem hx).symm.trans h)
  constructor
  · intro hf
    cases hf with
    | alone ha => exact ha
    | both hb => simp at hx
  · exact .alone

theorem followed_of_cut_some (ha : ∀ a, alone a → x ∉ a) (hb : ∀ a b, both a b → x ∉ a)
    (h : cutOnce x t = (a, some b)) : Followed x alone both t ↔ both a b := by
  obtain ⟨rfl, hx⟩ := cutOnce_some h
  constructor
  · intro hf
    generalize he : a ++ x :: b = t at hf
    cases hf with
    | alone hf =>
      subst he
      exact absurd (List.mem_append_right a List.mem_cons_self) (ha _ hf)
    | both hf =>
      obtain ⟨rfl, rfl⟩ := append_separator_inj hx (hb _ _ hf) he
      exact hf
  · exact .both

end

end Scrutiny.Text
