import Scrutiny.Proofs.Recurrence.Spacing
import Scrutiny.Proofs.Text.Raised

/-!
# Rules that fall into pairs

A rule falls into parts if every piece between its semicolons spells a pair, and a rule that does
not is answered as such before anything else is looked at. Upper case makes no equals sign and takes
none away, so that each piece of the others is one name and one value when it is cut in upper case.
-/

set_option autoImplicit false

namespace Scrutiny.Recurrence

open Text

/-- A letter with letters and hyphens behind it, an equals sign, and a value that holds something
but neither of the two signs that separate. -/
inductive SpellsPair : List Char → Prop
  | pair {c : Char} {n v : List Char} (hc : c.isAlpha = true)
      (hn : ∀ x ∈ n, x.isAlpha = true ∨ x = '-') (hne : v ≠ []) (equals : '=' ∉ v)
      (semicolon : ';' ∉ v) : SpellsPair (c :: n ++ '=' :: v)

theorem isName_iff (t : List Char) : isName t = true ↔
    ∃ c n, t = c :: n ∧ c.isAlpha = true ∧ ∀ x ∈ n, x.isAlpha = true ∨ x = '-' := by
  cases t with
  | nil => simp [isName]
  | cons c n =>
    simp only [isName, isNameChar, Bool.and_eq_true, List.all_eq_true, Bool.or_eq_true,
      decide_eq_true_eq]
    constructor
    · rintro ⟨hc, hn⟩
      exact ⟨c, n, rfl, hc, hn⟩
    · rintro ⟨_, _, ⟨⟩, hc, hn⟩
      exact ⟨hc, hn⟩

theorem isValue_iff (v : List Char) : isValue v = true ↔ v ≠ [] ∧ '=' ∉ v ∧ ';' ∉ v := by
  rw [isValue, Bool.and_eq_true, List.all_eq_true]
  simp only [Bool.not_eq_true', List.isEmpty_eq_false_iff, Bool.and_eq_true, decide_eq_true_eq]
  refine and_congr_right fun _ => ⟨fun h => ?_, fun ⟨he, hs⟩ c hc => ?_⟩
  · exact ⟨fun hm => (h _ hm).1 rfl, fun hm => (h _ hm).2 rfl⟩
  · constructor
    · rintro rfl
      exact he hc
    · rintro rfl
      exact hs hc

theorem part?_of_text {q n v : List Char} (hq : trim q = n ++ '=' :: v) (hn : isName n = true)
    (hv : isValue v = true) : part? q = some ⟨upper n, upper v⟩ := by
  have he : '=' ∉ n := not_mem_of_isName hn (by decide)
  rw [part?, hq, cutOnce_append he]
  simp [hn, hv]

theorem spellsPair_iff (q : List Char) : SpellsPair (trim q) ↔ ∃ p, part? q = some p := by
  constructor
  · intro h
    generalize hq : trim q = u at h
    cases h with
    | @pair c n v hc hn hne equals semicolon =>
      have hname : isName (c :: n) = true := (isName_iff _).2 ⟨c, n, rfl, hc, hn⟩
      have hvalue : isValue v = true := (isValue_iff v).2 ⟨hne, equals, semicolon⟩
      exact ⟨_, part?_of_text hq hname hvalue⟩
  · rintro ⟨p, hp⟩
    obtain ⟨n, v, hpair⟩ := part?_pair hp
    obtain ⟨c, n, rfl, hc, hn⟩ := (isName_iff _).1 hpair.name
    obtain ⟨hne, equals, semicolon⟩ := (isValue_iff v).1 hpair.value
    rw [hpair.text]
    exact .pair hc hn hne equals semicolon

theorem IsPair.cutAt_upper {q n v : List Char} {p : Part} (h : IsPair q n v p) :
    cutAt '=' (upper (trim q)) = [p.name, p.value] := by
  have hname : '=' ∉ upper n := by
    rw [mem_upper_iff (by decide)]
    exact not_mem_of_isName h.name (by decide)
  have hvalue : '=' ∉ upper v := by
    rw [mem_upper_iff (by decide)]
    exact ((isValue_iff v).1 h.value).2.1
  rw [h.text, upper_append, upper_cons_caseless (by decide), cutAt_cons hname,
    cutAt_of_not_mem hvalue, h.part]

inductive Unmarked : List Char → List Char → Prop
  | marked {m b : List Char} (h : m.map Char.toUpper = "RRULE:".toList) : Unmarked (m ++ b) b
  | plain {t : List Char} (h : ∀ m b, t = m ++ b → m.map Char.toUpper ≠ "RRULE:".toList) :
      Unmarked t t

theorem mark_own : ∀ a ∈ mark, IsOwn a := by
  have h : mark.all (fun a => IsOwn a) = true := by decide
  exact fun a ha => of_decide_eq_true (List.all_eq_true.1 h a ha)

theorem unmarked_body (t : List Char) : Unmarked (trim t) (body t) := by
  have hm : mark.isPrefixOf (upper (trim t)) = true ↔
      ∃ m r, trim t = m ++ r ∧ m.map Char.toUpper = mark := by
    rw [List.isPrefixOf_iff_prefix]
    exact prefix_upper_iff mark_own (trim t)
  unfold body
  dsimp only
  split
  · rename_i h
    obtain ⟨m, r, ht, hu⟩ := hm.1 h
    have hlength : mark.length = m.length := by rw [← hu, List.length_map]
    rw [ht, hlength, List.drop_left]
    exact .marked hu
  · rename_i h
    exact .plain fun m r ht hu => h (hm.2 ⟨m, r, ht, hu⟩)

theorem exists_of_mapM_none {α β : Type} {f : α → Option β} {as : List α}
    (h : as.mapM f = none) : ∃ a ∈ as, f a = none := by
  induction as with
  | nil => cases h
  | cons a as ih =>
    cases ha : f a with
    | none => exact ⟨a, List.mem_cons_self, ha⟩
    | some b =>
      cases has : as.mapM f with
      | none =>
        obtain ⟨x, hx, hn⟩ := ih has
        exact ⟨x, List.mem_cons_of_mem a hx, hn⟩
      | some bs => simp [ha, has] at h

theorem parts?_eq_none_iff (t : List Char) :
    parts? t = none ↔ ∃ q ∈ cutAt ';' (body t), ¬ SpellsPair (trim q) := by
  constructor
  · intro h
    obtain ⟨q, hq, hn⟩ := exists_of_mapM_none h
    refine ⟨q, hq, fun hs => ?_⟩
    obtain ⟨p, hp⟩ := (spellsPair_iff q).1 hs
    cases hn.symm.trans hp
  · rintro ⟨q, hq, hn⟩
    cases hps : parts? t with
    | none => rfl
    | some ps => exact absurd ((spellsPair_iff q).2 (pieces_part hps q hq)) hn

theorem checkFlaw_outcome {f : Flaw} {c : Check} (h : checkFlaw f = .ok c) :
    c.outcome = .invalid := by
  unfold checkFlaw at h
  split at h
  · cases h
    rfl
  · cases h

theorem parseError_iff (read : Reading) (t : List Char) :
    (∃ c, checkWith read t = .ok c ∧ c.outcome = .parseError) ↔ parts? t = none := by
  unfold checkWith
  cases parts? t with
  | none => exact iff_of_true ⟨parseError, rfl, rfl⟩ rfl
  | some ps =>
    refine iff_of_false ?_ (Option.some_ne_none ps)
    rintro ⟨c, hc, hout⟩
    obtain ⟨o, -, hc⟩ := ok_of_bind hc
    cases o with
    | some p =>
      cases hc
      cases hout
    | none =>
      dsimp only at hc
      split at hc
      · cases hc
        cases hout
      · rw [checkFlaw_outcome hc] at hout
        cases hout

/-- A rule is answered as one that does not fall into parts exactly if some piece of it spells no
pair. The others have parts, and in upper case every piece of them is cut into the name and the
value of its part. -/
theorem cut_into_pairs (read : Reading) (t : List Char) :
    Unmarked (trim t) (body t) ∧
    ((∃ c, checkWith read t = .ok c ∧ c.outcome = .parseError) ↔
      ∃ q ∈ cutAt ';' (body t), ¬ SpellsPair (trim q)) ∧
    ((¬ ∃ c, checkWith read t = .ok c ∧ c.outcome = .parseError) ↔
      ∃ ps, parts? t = some ps ∧
        (cutAt ';' (body t)).map (fun q => cutAt '=' (upper (trim q))) =
          ps.map fun p => [p.name, p.value]) := by
  refine ⟨unmarked_body t, (parseError_iff read t).trans (parts?_eq_none_iff t), ?_⟩
  rw [parseError_iff]
  constructor
  · intro h
    obtain ⟨ps, hps⟩ := Option.ne_none_iff_exists'.1 h
    refine ⟨ps, hps, (mapM_part hps).2 _ _ fun q p hq => ?_⟩
    obtain ⟨n, v, hpair⟩ := part?_pair hq
    exact hpair.cutAt_upper
  · rintro ⟨ps, hps, -⟩ h
    cases h.symm.trans hps

end Scrutiny.Recurrence
