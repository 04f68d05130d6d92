/-!
Cutting text at a separator and gluing it back. One form cuts at a single character, the other
at a text of any positive length, leftmost occurrence first and without overlaps.
-/

set_option autoImplicit false

namespace Scrutiny.Text

/-- The pieces between the occurrences of a character; there is always at least one. -/
def cutAt (x : Char) : List Char → List (List Char)
  | [] => [[]]
  | c :: r =>
    if c = x then [] :: cutAt x r
    else
      match cutAt x r with
      | [] => [[c]]
      | p :: ps => (c :: p) :: ps

def cutOnce (x : Char) : List Char → List Char × Option (List Char)
  | [] => ([], none)
  | c :: r =>
    if c = x then ([], some r)
    else ((c :: (cutOnce x r).1), (cutOnce x r).2)

/-- Cuts while `skip` more characters of a separator are still to be dropped. -/
def piecesFrom (sep : List Char) : Nat → List Char → List Char → List (List Char)
  | _, held, [] => [held.reverse]
  | skip + 1, held, _ :: r => piecesFrom sep skip held r
  | 0, held, c :: r =>
    if sep.isPrefixOf (c :: r) then held.reverse :: piecesFrom sep (sep.length - 1) [] r
    else piecesFrom sep 0 (c :: held) r

def pieces (sep t : List Char) : List (List Char) := piecesFrom sep 0 [] t

def glue (sep : List Char) (ts : List (List Char)) : List Char := List.intercalate sep ts

theorem cutAt_ne_nil (x : Char) (t : List Char) : cutAt x t ≠ [] := by
  cases t with
  | nil => simp [cutAt]
  | cons c r =>
    rw [cutAt]
    split
    · simp
    · split <;> simp

theorem glue_cutAt (x : Char) (t : List Char) : glue [x] (cutAt x t) = t := by
  induction t with
  | nil => rfl
  | cons c r ih =>
    rw [cutAt]
    have hne := cutAt_ne_nil x r
    split
    · rename_i hc
      subst hc
      cases hr : cutAt c r with
      | nil => exact absurd hr hne
      | cons p ps =>
        rw [hr] at ih
        simp [glue, List.intercalate, List.intersperse] at ih ⊢
        exact ih
    · split
      · rename_i hr
        exact absurd hr hne
      · rename_i p ps hr
        rw [hr] at ih
        cases ps <;> simp_all [glue, List.intercalate, List.intersperse]

theorem not_mem_of_mem_cutAt (x : Char) (t p : List Char) (h : p ∈ cutAt x t) : x ∉ p := by
  induction t generalizing p with
  | nil => simp_all [cutAt]
  | cons c r ih =>
    rw [cutAt] at h
    split at h
    · rcases List.mem_cons.1 h with rfl | h
      · simp
      · exact ih p h
    · rename_i hc
      split at h
      · rename_i hr
        exact absurd hr (cutAt_ne_nil x r)
      · rename_i q qs hr
        rcases List.mem_cons.1 h with rfl | h
        · have := ih q (by simp [hr])
          simp only [List.mem_cons, not_or]
          exact ⟨fun e => hc e.symm, this⟩
        · exact ih p (by simp [hr, h])

theorem cutOnce_none_iff (x : Char) (t : List Char) : (cutOnce x t).2 = none ↔ x ∉ t := by
  induction t with
  | nil => simp [cutOnce]
  | cons c r ih =>
    rw [cutOnce]
    by_cases hc : c = x
    · simp [hc]
    · simp [hc, ih, Ne.symm hc]

theorem cutOnce_append {x : Char} {a : List Char} (h : x ∉ a) (r : List Char) :
    cutOnce x (a ++ x :: r) = (a, some r) := by
  induction a with
  | nil => simp [cutOnce]
  | cons c a ih =>
    have hc : c ≠ x := fun e => h (by simp [e])
    have ha : x ∉ a := fun m => h (List.mem_cons_of_mem c m)
    rw [List.cons_append, cutOnce, if_neg hc, ih ha]

theorem append_separator_inj {x : Char} {a b r s : List Char} (ha : x ∉ a) (hb : x ∉ b)
    (h : a ++ x :: r = b ++ x :: s) : a = b ∧ r = s := by
  have hc := congrArg (cutOnce x) h
  rw [cutOnce_append ha, cutOnce_append hb] at hc
  simpa using hc

end Scrutiny.Text
