import Scrutiny.Text.Pieces

/-!
# Cutting what was glued

Texts that are glued with a separator and cut at it again come back as they were, unless the
separator is found too early: within a text, or across the end of a text and the beginning of the
separator that stands behind it. No texts at all come back as one empty text.
-/

set_option autoImplicit false

namespace Scrutiny.Text

def Clear (sep t : List Char) : Prop := ¬ sep <:+: t ++ sep.dropLast

/-- Texts that a separator keeps apart. There is no separator behind the last one. -/
def Apart (sep : List Char) : List (List Char) → Prop
  | [] => False
  | [t] => ¬ sep <:+: t
  | t :: u :: ts => Clear sep t ∧ Apart sep (u :: ts)

instance (sep t : List Char) : Decidable (Clear sep t) :=
  inferInstanceAs (Decidable (¬ sep <:+: t ++ sep.dropLast))

instance decidableApart (sep : List Char) : (ts : List (List Char)) → Decidable (Apart sep ts)
  | [] => inferInstanceAs (Decidable False)
  | [t] => inferInstanceAs (Decidable (¬ sep <:+: t))
  | t :: u :: ts =>
    have := decidableApart sep (u :: ts)
    inferInstanceAs (Decidable (Clear sep t ∧ Apart sep (u :: ts)))

theorem piecesFrom_drop (sep held a r : List Char) :
    piecesFrom sep a.length held (a ++ r) = piecesFrom sep 0 held r := by
  induction a with
  | nil => rfl
  | cons c a ih => exact ih

theorem piecesFrom_separator {sep : List Char} (hs : sep ≠ []) (held r : List Char) :
    piecesFrom sep 0 held (sep ++ r) = held.reverse :: pieces sep r := by
  obtain ⟨c, s, rfl⟩ := List.exists_cons_of_ne_nil hs
  have hp : (c :: s).isPrefixOf (c :: (s ++ r)) = true :=
    List.isPrefixOf_iff_prefix.2 (List.prefix_append (c :: s) r)
  rw [List.cons_append, piecesFrom, if_pos hp]
  exact congrArg _ (piecesFrom_drop (c :: s) [] s r)

theorem piecesFrom_hold {sep t r : List Char} (held : List Char)
    (h : ∀ u c v, t = u ++ c :: v → ¬ sep <+: c :: v ++ r) :
    piecesFrom sep 0 held (t ++ r) = piecesFrom sep 0 (t.reverse ++ held) r := by
  induction t generalizing held with
  | nil => rfl
  | cons c t ih =>
    have hc : ¬ sep.isPrefixOf (c :: (t ++ r)) = true := fun hp =>
      h [] c t rfl (List.isPrefixOf_iff_prefix.1 hp)
    rw [List.cons_append, piecesFrom, if_neg hc,
      ih (c :: held) fun u d v e => h (c :: u) d v (congrArg (c :: ·) e)]
    simp

theorem Clear.not_prefix {sep t : List Char} (h : Clear sep t) (r : List Char)
    (u : List Char) (c : Char) (v : List Char) (e : t = u ++ c :: v) :
    ¬ sep <+: c :: v ++ (sep ++ r) := by
  intro hp
  have hd : c :: v ++ sep.dropLast <+: c :: v ++ (sep ++ r) :=
    (List.prefix_append_right_inj _).2 ((List.dropLast_prefix sep).trans (List.prefix_append sep r))
  have hl : sep.length ≤ (c :: v ++ sep.dropLast).length := by
    simp
    omega
  obtain ⟨w, hw⟩ := List.prefix_of_prefix_length_le hp hd hl
  refine h ⟨u, w, ?_⟩
  rw [e, List.append_assoc, List.append_assoc, hw]

theorem pieces_append {sep t : List Char} (hs : sep ≠ []) (h : Clear sep t) (r : List Char) :
    pieces sep (t ++ (sep ++ r)) = t :: pieces sep r := by
  rw [pieces, piecesFrom_hold [] (h.not_prefix r), piecesFrom_separator hs]
  simp

theorem pieces_single {sep t : List Char} (h : ¬ sep <:+: t) : pieces sep t = [t] := by
  have hh : ∀ u c v, t = u ++ c :: v → ¬ sep <+: c :: v ++ [] := by
    intro u c v e hp
    obtain ⟨w, hw⟩ := hp
    exact h ⟨u, w, by rw [e, List.append_assoc, hw, List.append_nil]⟩
  have ht := piecesFrom_hold [] hh
  rw [List.append_nil, List.append_nil] at ht
  rw [pieces, ht, piecesFrom, List.reverse_reverse]

theorem pieces_glue {sep : List Char} (hs : sep ≠ []) {ts : List (List Char)}
    (h : Apart sep ts) : pieces sep (glue sep ts) = ts := by
  induction ts with
  | nil => cases h
  | cons t ts ih =>
    cases ts with
    | nil =>
      have hg : glue sep [t] = t := by simp [glue]
      rw [hg, pieces_single h]
    | cons u ts =>
      have hg : glue sep (t :: u :: ts) = t ++ (sep ++ glue sep (u :: ts)) := by
        simp [glue]
      rw [hg, pieces_append hs h.1, ih h.2]

end Scrutiny.Text
