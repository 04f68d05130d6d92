import Scrutiny.Proofs.Value.Numbers

/-!
# Blank values

A value is blank if it is absent or a text of blanks. Nothing else is blank: whatever a value of
another kind is written as, there is a character in it that is no blank.
-/

set_option autoImplicit false

namespace Scrutiny

open Text Calendar

namespace Text

def IsMarked (t : List Char) : Prop := ∃ c ∈ t, isBlank c = false

theorem IsMarked.append_left {t : List Char} (h : IsMarked t) (r : List Char) :
    IsMarked (t ++ r) := by
  obtain ⟨c, hc, hb⟩ := h
  exact ⟨c, List.mem_append_left r hc, hb⟩

theorem IsMarked.append_right {t : List Char} (h : IsMarked t) (l : List Char) :
    IsMarked (l ++ t) := by
  obtain ⟨c, hc, hb⟩ := h
  exact ⟨c, List.mem_append_right l hc, hb⟩

theorem IsMarked.not_allBlank {t : List Char} (h : IsMarked t) : isAllBlank t = false := by
  obtain ⟨c, hc, hb⟩ := h
  rw [isAllBlank, List.all_eq_false]
  exact ⟨c, hc, by simp [hb]⟩

theorem isMarked_digits {t : List Char} (hne : t ≠ []) (hd : t.all isDigit = true) :
    IsMarked t := by
  rw [List.all_eq_true] at hd
  have hc := List.head_mem hne
  exact ⟨t.head hne, hc, Decimal.isBlank_of_isDigit (hd _ hc)⟩

theorem isMarked_naturalText (n : Nat) : IsMarked (naturalText n) := by
  apply isMarked_digits
  · exact List.ne_nil_of_length_pos (Decimal.digitCount_pos n)
  · exact all_isDigit_naturalText n

end Text

theorem Decimal.isMarked_withPoint {digits : List Char} (h : IsMarked digits) (place : Int) :
    IsMarked (withPoint digits place) := by
  unfold withPoint
  split
  · exact ⟨'0', by simp, by decide⟩
  · split
    · exact ⟨'.', by simp, by decide⟩
    · exact h.append_left _

theorem Decimal.isMarked_text (d : Decimal) : IsMarked d.text := by
  cases d with
  | finite n c e =>
    apply IsMarked.append_right
    have hpoint (place : Int) := isMarked_withPoint (isMarked_naturalText c) place
    simp only [finiteText]
    split
    · exact hpoint _
    · exact (hpoint 1).append_left _
  | infinite n => exact ⟨'I', by simp [text], by decide⟩
  | undefined n s p => exact ⟨'N', by simp [text], by decide⟩

theorem Double.isMarked_finite (l : Layout) (m : Nat) (q : Int) : IsMarked (l.finite m q) := by
  unfold Layout.finite
  split
  · exact ⟨'0', by simp, by decide⟩
  · simp only
    split
    · -- There is a point among the digits or behind them.
      by_cases hp : ((shortest m q).1.length : Int) ≤ (shortest m q).2
      · rw [if_pos hp]
        exact ⟨'.', by simp, by decide⟩
      · rw [if_neg hp, List.append_nil]
        unfold Decimal.withPoint
        split
        · exact ⟨'.', by simp, by decide⟩
        · split
          · exact ⟨'.', by simp, by decide⟩
          · omega
    · exact ⟨'e', by simp, by decide⟩

theorem Double.isMarked_text (x : Double) : IsMarked x.text := by
  cases x with
  | finite n m q => exact (isMarked_finite plainLayout m q).append_right _
  | infinite n => exact IsMarked.append_right ⟨'i', by simp [plainLayout], by decide⟩ _
  | undefined => exact ⟨'n', by simp [text, Layout.text, plainLayout], by decide⟩

theorem Calendar.Date.isMarked_iso (d : Date) : IsMarked d.iso :=
  ⟨'-', by simp [Date.iso], by decide⟩

namespace Value
variable {v : Value} {t : List Char}

theorem isMarked_enclosed {left : String} (h : IsMarked left.toList) (right : String)
    (inner : List Char) : IsMarked (enclosed left right inner) :=
  (h.append_left inner).append_left _

theorem isMarked_integer {n : Int} (h : integer n = .ok t) : IsMarked t := by
  unfold integer at h
  split at h
  · rename_i t' ht
    obtain rfl := Except.ok.inj h
    rw [eq_of_integerText? ht]
    unfold integerText
    split
    · exact ⟨'-', List.mem_cons_self, by decide⟩
    · exact isMarked_naturalText _
  · cases h

theorem isMarked_shown (hs : ∀ s, v ≠ .text s) (h : v.shown = .ok t) : IsMarked t := by
  cases v with
  | text s => exact absurd rfl (hs s)
  | null =>
    obtain rfl := Except.ok.inj h
    exact ⟨'N', by decide, by decide⟩
  | bool b =>
    cases b
    all_goals
      obtain rfl := Except.ok.inj h
      exact ⟨'e', by decide, by decide⟩
  | int n => exact isMarked_integer h
  | real x =>
    obtain rfl := Except.ok.inj h
    exact x.isMarked_text
  | decimal d =>
    obtain rfl := Except.ok.inj h
    exact isMarked_enclosed ⟨'D', by decide, by decide⟩ _ _
  | bytes bs =>
    obtain rfl := Except.ok.inj h
    exact ⟨'b', by simp [quotedBytes], by decide⟩
  | date d =>
    obtain rfl := Except.ok.inj h
    exact isMarked_enclosed ⟨'d', by decide, by decide⟩ _ _
  | moment m =>
    obtain rfl := Except.ok.inj h
    exact isMarked_enclosed ⟨'d', by decide, by decide⟩ _ _
  | list items =>
    obtain ⟨ts, -, h⟩ := ok_of_bind h
    obtain rfl := Except.ok.inj h
    exact isMarked_enclosed ⟨'[', by decide, by decide⟩ _ _
  | tuple items =>
    obtain ⟨ts, -, h⟩ := ok_of_bind h
    split at h
    all_goals
      obtain rfl := Except.ok.inj h
      exact isMarked_enclosed ⟨'(', by decide, by decide⟩ _ _
  | dict entries =>
    obtain ⟨ts, -, h⟩ := ok_of_bind h
    obtain rfl := Except.ok.inj h
    exact isMarked_enclosed ⟨'\x7b', by decide, by decide⟩ _ _
  | set items =>
    obtain ⟨ts, -, h⟩ := ok_of_bind h
    split at h
    · obtain rfl := Except.ok.inj h
      exact ⟨'s', by decide, by decide⟩
    · obtain rfl := Except.ok.inj h
      exact isMarked_enclosed ⟨'\x7b', by decide, by decide⟩ _ _
  | frozenset items =>
    obtain ⟨ts, -, h⟩ := ok_of_bind h
    split at h
    · obtain rfl := Except.ok.inj h
      exact ⟨'f', by decide, by decide⟩
    · obtain rfl := Except.ok.inj h
      exact isMarked_enclosed ⟨'f', by decide, by decide⟩ _ _

theorem isMarked_wording (hs : ∀ s, v ≠ .text s) (h : v.wording = .ok t) : IsMarked t := by
  cases v with
  | null =>
    obtain rfl := Except.ok.inj h
    exact ⟨'n', by decide, by decide⟩
  | bool b =>
    cases b
    all_goals
      obtain rfl := Except.ok.inj h
      exact ⟨'e', by decide, by decide⟩
  | text s => exact absurd rfl (hs s)
  | decimal d =>
    obtain rfl := Except.ok.inj h
    exact d.isMarked_text
  | date d =>
    obtain rfl := Except.ok.inj h
    exact d.isMarked_iso
  | moment m =>
    obtain rfl := Except.ok.inj h
    exact (m.date.isMarked_iso.append_left _).append_left _
  | _ => exact isMarked_shown hs h

inductive Blank : Value → Prop
  | null : Blank .null
  | text {s : String} (h : Blanks s.toList) : Blank (.text s)

theorem blank_text {s : String} : (Value.text s).Blank ↔ Blanks s.toList := by
  constructor
  · rintro (_ | h)
    exact h
  · exact .text

theorem isBlank_eq_ok {b : Bool} (h : v.isBlank = .ok b) : b = true ↔ v.Blank := by
  by_cases hn : v = .null
  · subst hn
    obtain rfl := Except.ok.inj h
    exact iff_of_true rfl .null
  rw [isBlank, isNull_of_ne hn] at h
  obtain ⟨t, ht, h⟩ := ok_of_bind h
  obtain rfl := Except.ok.inj h
  by_cases hs : ∃ s, v = .text s
  · obtain ⟨s, rfl⟩ := hs
    obtain rfl : s.toList = t := Except.ok.inj ht
    rw [blank_text, isAllBlank, List.all_eq_true]
    exact Iff.rfl
  · rw [not_exists] at hs
    rw [(isMarked_wording hs ht).not_allBlank]
    apply iff_of_false Bool.false_ne_true
    rintro (_ | h)
    · exact hn rfl
    · exact hs _ rfl

theorem isBlank_failsBy (v : Value) : FailsBy v.isBlank (Unwritable v.integers) :=
  failsBy_ite (fun _ => failsBy_ok _) fun _ =>
    failsBy_bind (wording_failsBy v) fun _ _ => failsBy_ok _

end Value
end Scrutiny
