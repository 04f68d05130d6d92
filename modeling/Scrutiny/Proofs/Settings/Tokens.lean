import Scrutiny.Proofs.Settings.Precedence
import Scrutiny.Proofs.Text.Raised

/-!
# Tokens in their canonical form

Tokens are read one after the other, trimmed and in upper case, and a form is put behind those that
were seen unless it is empty or one of them. So what comes of a list of tokens is each of their
forms once, in the order in which they come first. Read again it stays what it is, and settings that
are given as they were settled are settled as they are.
-/

set_option autoImplicit false

namespace Scrutiny

open Text

namespace Settings

def remember (seen : List (List Char)) (t : List Char) : List (List Char) :=
  if t = [] ∨ t ∈ seen then seen else seen ++ [t]

theorem remember_known {seen : List (List Char)} {t : List Char} (h : t = [] ∨ t ∈ seen) :
    remember seen t = seen := if_pos h

theorem remember_new {seen : List (List Char)} {t : List Char} (hne : t ≠ []) (h : t ∉ seen) :
    remember seen t = seen ++ [t] := if_neg (not_or.2 ⟨hne, h⟩)

theorem tokens_eq_foldl (ts : List (List Char)) :
    tokens ts = (ts.map canonical).foldl remember [] := by
  rw [tokens, List.foldl_filter]
  congr 1
  funext seen t
  by_cases ht : t = []
  · rw [remember_known (.inl ht), ht]
    rfl
  · by_cases hm : t ∈ seen
    · rw [remember_known (.inr hm)]
      simp [hm]
    · rw [remember_new ht hm]
      simp [ht, hm]

/-- The forms of a list but the empty one, each once and in the order in which they come first. -/
structure Firsts (forms seen : List (List Char)) : Prop where
  mem : ∀ a, a ∈ seen ↔ a ∈ forms ∧ a ≠ []
  ordered : seen.Pairwise fun a b => forms.idxOf a < forms.idxOf b

namespace Firsts
variable {forms seen : List (List Char)} (h : Firsts forms seen)

theorem nil : Firsts [] [] := ⟨by simp, .nil⟩

include h

theorem nodup : seen.Nodup := by
  refine h.ordered.imp fun hlt he => ?_
  rw [he] at hlt
  exact Nat.lt_irrefl _ hlt

theorem ordered_append (t : List Char) :
    seen.Pairwise fun a b => (forms ++ [t]).idxOf a < (forms ++ [t]).idxOf b := by
  refine h.ordered.imp_of_mem fun ha hb hlt => ?_
  rwa [List.idxOf_append_of_mem ((h.mem _).1 ha).1, List.idxOf_append_of_mem ((h.mem _).1 hb).1]

theorem remember (t : List Char) : Firsts (forms ++ [t]) (remember seen t) := by
  by_cases hne : t = []
  · rw [remember_known (.inl hne)]
    refine ⟨fun a => ?_, h.ordered_append t⟩
    rw [h.mem, List.mem_append, List.mem_singleton, hne]
    constructor
    · rintro ⟨ha, hn⟩
      exact ⟨.inl ha, hn⟩
    · rintro ⟨ha, hn⟩
      exact ⟨ha.resolve_right hn, hn⟩
  by_cases hm : t ∈ seen
  · rw [remember_known (.inr hm)]
    refine ⟨fun a => ?_, h.ordered_append t⟩
    have ht := ((h.mem t).1 hm).1
    rw [h.mem, List.mem_append, List.mem_singleton, or_iff_left_of_imp]
    rintro rfl
    exact ht
  · rw [remember_new hne hm]
    have hf : t ∉ forms := fun hf => hm ((h.mem t).2 ⟨hf, hne⟩)
    constructor
    · intro a
      rw [List.mem_append, List.mem_append, List.mem_singleton, h.mem, or_and_right,
        and_iff_left_of_imp (a := a = t)]
      rintro rfl
      exact hne
    · refine List.pairwise_append.2 ⟨h.ordered_append t, List.pairwise_singleton _ _, ?_⟩
      intro a ha b hb
      obtain rfl := List.mem_singleton.1 hb
      have ha := ((h.mem a).1 ha).1
      rw [List.idxOf_append_of_mem ha, List.idxOf_append_of_notMem hf]
      exact Nat.lt_add_right _ (List.idxOf_lt_length_of_mem ha)

theorem foldl (ts : List (List Char)) :
    Firsts (forms ++ ts) (ts.foldl Settings.remember seen) := by
  induction ts generalizing forms seen with
  | nil => simpa using h
  | cons t ts ih => simpa using ih (h.remember t)

end Firsts

theorem firsts_tokens (ts : List (List Char)) : Firsts (ts.map canonical) (tokens ts) := by
  rw [tokens_eq_foldl]
  exact Firsts.nil.foldl _

theorem foldl_remember {seen ts : List (List Char)} (hn : (seen ++ ts).Nodup)
    (hne : ∀ t ∈ ts, t ≠ []) : ts.foldl remember seen = seen ++ ts := by
  induction ts generalizing seen with
  | nil => simp
  | cons t ts ih =>
    obtain ⟨ht, hts⟩ := List.forall_mem_cons.1 hne
    have hs : t ∉ seen := fun hm => (List.nodup_append.1 hn).2.2 t hm t List.mem_cons_self rfl
    rw [List.foldl_cons, remember_new ht hs, ih (by simpa using hn) hts]
    simp

theorem canonical_eq_nil_iff (t : List Char) : canonical t = [] ↔ Blanks t := by
  rw [canonical, upper_eq_nil_iff, trim_eq_nil_iff]

theorem canonical_canonical (t : List Char) : canonical (canonical t) = canonical t := by
  rw [canonical, canonical, trim_upper_trim, upper_upper]

theorem canonical_trim (t : List Char) : canonical (trim t) = canonical t := by
  rw [canonical, trim_trim, canonical]

/-- The trimmed texts that are not blank, in upper case, each once and in the order in which they
come first. -/
structure AreCanonical (ts bs : List (List Char)) : Prop where
  mem : ∀ b, b ∈ bs ↔ ∃ t ∈ ts, ¬ Blanks t ∧ b = upper (trim t)
  not_empty : [] ∉ bs
  nodup : bs.Nodup
  ordered : bs.Pairwise fun a b =>
    (ts.map fun t => upper (trim t)).idxOf a < (ts.map fun t => upper (trim t)).idxOf b

theorem tokens_areCanonical (ts : List (List Char)) : AreCanonical ts (tokens ts) := by
  have h := firsts_tokens ts
  refine ⟨fun b => ?_, fun hm => ((h.mem []).1 hm).2 rfl, h.nodup, h.ordered⟩
  rw [h.mem, List.mem_map]
  constructor
  · rintro ⟨⟨t, ht, rfl⟩, hne⟩
    exact ⟨t, ht, fun hb => hne ((canonical_eq_nil_iff t).2 hb), rfl⟩
  · rintro ⟨t, ht, hb, rfl⟩
    exact ⟨⟨t, ht, rfl⟩, fun he => hb ((canonical_eq_nil_iff t).1 he)⟩

theorem tokens_tokens (ts : List (List Char)) : tokens (tokens ts) = tokens ts := by
  have h := firsts_tokens ts
  have hforms : (tokens ts).map canonical = tokens ts := by
    refine List.map_congr_left (g := id) (fun t ht => ?_) |>.trans (List.map_id _)
    obtain ⟨u, -, rfl⟩ := List.mem_map.1 ((h.mem t).1 ht).1
    exact canonical_canonical u
  rw [tokens_eq_foldl (tokens ts), hforms]
  exact foldl_remember (by simpa using h.nodup) fun t ht => ((h.mem t).1 ht).2

theorem foldl_filter_nonempty (ps seen : List (List Char)) :
    ((ps.filter fun p => !p.isEmpty).map canonical).foldl remember seen =
      (ps.map canonical).foldl remember seen := by
  induction ps generalizing seen with
  | nil => rfl
  | cons p ps ih =>
    cases p with
    | nil =>
      have hn : canonical [] = [] := rfl
      rw [List.map_cons, hn, List.foldl_cons, remember_known (.inl rfl)]
      exact ih seen
    | cons c p => exact ih (remember seen (canonical (c :: p)))

theorem tokens_listed (t : List Char) : tokens (listed (trim t)) = tokens (cutAt ',' t) := by
  rw [tokens_eq_foldl, tokens_eq_foldl, listed, foldl_filter_nonempty,
    map_trim_cutAt_trim (by decide), List.map_map]
  simp only [Function.comp_def, canonical_trim]

theorem listed_eq_nil_iff (t : List Char) : listed (trim t) = [] ↔ ∀ p ∈ cutAt ',' t, Blanks p := by
  rw [listed, map_trim_cutAt_trim (by decide), List.filter_eq_nil_iff, List.forall_mem_map]
  simp [trim_eq_nil_iff]

/-- The tokens that settings are made of: those that are given, else those between the commas of the
variable if there is one that is not blank, else the two standard ones. -/
inductive Supplied (g : Given) (env : Environment) : List (List Char) → Prop
  | given {v : Value} {items : List Value} {ts : List (List Char)} (hg : g.booleans = some v)
      (hi : v.members? = some items) (ht : items.mapM Value.plain = .ok ts) : Supplied g env ts
  | listed {s : String} (hg : g.booleans = none)
      (hs : env (g.variable Setting.booleans.name) = some s)
      (hp : ∃ p ∈ cutAt ',' s.toList, ¬ Blanks p) : Supplied g env (cutAt ',' s.toList)
  | standard (hg : g.booleans = none)
      (hs : ∀ s, env (g.variable Setting.booleans.name) = some s →
        ∀ p ∈ cutAt ',' s.toList, Blanks p) :
      Supplied g env ["TRUE".toList, "FALSE".toList]

section
variable {g : Given} {env : Environment}

theorem Supplied.unique {ts us : List (List Char)} (ht : Supplied g env ts)
    (hu : Supplied g env us) : us = ts := by
  cases ht with
  | given hg hi ht =>
    cases hu with
    | given hg' hi' hu =>
      obtain rfl := Option.some.inj (hg.symm.trans hg')
      obtain rfl := Option.some.inj (hi.symm.trans hi')
      exact Except.ok.inj (hu.symm.trans ht)
    | listed hg' => cases hg.symm.trans hg'
    | standard hg' => cases hg.symm.trans hg'
  | listed hg hs hp =>
    cases hu with
    | given hg' => cases hg.symm.trans hg'
    | listed _ hs' =>
      obtain rfl := Option.some.inj (hs.symm.trans hs')
      rfl
    | standard _ hs' =>
      obtain ⟨p, hp, hb⟩ := hp
      exact absurd (hs' _ hs p hp) hb
  | standard hg hs =>
    cases hu with
    | given hg' => cases hg.symm.trans hg'
    | listed _ hs' hp' =>
      obtain ⟨p, hp', hb⟩ := hp'
      exact absurd (hs _ hs' p hp') hb
    | standard => rfl

theorem trimmed?_getD {n s : String} (h : env n = some s) :
    (trimmed? env n).getD [] = trim s.toList := by
  rw [trimmed?, h, Option.map_some, Option.filter_some]
  cases ht : trim s.toList with
  | nil => rfl
  | cons c t => rfl

theorem environmentTokens_supplied (hg : g.booleans = none) :
    ∃ ts, Supplied g env ts ∧ tokens (environmentTokens g env) = tokens ts := by
  unfold environmentTokens
  cases hs : env (g.variable Setting.booleans.name) with
  | none =>
    have hn : trimmed? env (g.variable Setting.booleans.name) = none := by rw [trimmed?, hs]; rfl
    rw [Setting.name] at hn
    rw [hn]
    exact ⟨_, .standard hg (fun s he => by cases hs.symm.trans he), rfl⟩
  | some s =>
    have ht := trimmed?_getD hs
    rw [Setting.name] at ht
    rw [ht]
    split
    · rename_i hl
      refine ⟨_, .standard hg fun s' he => ?_, rfl⟩
      obtain rfl := Option.some.inj (hs.symm.trans he)
      exact (listed_eq_nil_iff _).1 hl
    · rename_i hl
      refine ⟨_, .listed hg hs ?_, tokens_listed _⟩
      by_contra hb
      push Not at hb
      exact hl ((listed_eq_nil_iff _).2 hb)

theorem resolveBooleans_supplied {bs : List String} (h : resolveBooleans g env = .ok bs) :
    ∃ ts, Supplied g env ts ∧ bs.map String.toList = tokens ts := by
  have htexts : ∀ us, ((tokens us).map String.ofList).map String.toList = tokens us := by
    simp [Function.comp_def]
  unfold resolveBooleans at h
  split at h
  · rename_i v hg
    obtain ⟨us, hu, hb⟩ := ok_of_bind h
    cases hb
    unfold memberTexts at hu
    split at hu
    · rename_i items hi
      exact ⟨us, .given hg hi hu, htexts us⟩
    · cases hu
  · rename_i hg
    cases h
    rw [htexts]
    exact environmentTokens_supplied hg

end

theorem mapM_plain_text (bs : List String) :
    (bs.map Value.text).mapM Value.plain = .ok (bs.map String.toList) := by
  induction bs with
  | nil => rfl
  | cons b bs ih =>
    rw [List.map_cons, List.mapM_cons, ih]
    rfl

theorem resolveBooleans_again {g : Given} {bs : List String} {ts : List (List Char)}
    (hg : g.booleans = some (.tuple (bs.map .text))) (hb : bs.map String.toList = tokens ts)
    (env : Environment) : resolveBooleans g env = .ok bs := by
  have hm : memberTexts (.tuple (bs.map .text)) = .ok (tokens ts) := by
    rw [← hb]
    exact mapM_plain_text bs
  have htexts : (tokens ts).map String.ofList = bs := by
    rw [← hb]
    simp [Function.comp_def]
  unfold resolveBooleans
  rw [hg]
  dsimp only
  rw [hm]
  simp [bind, Except.bind, pure, Except.pure, tokens_tokens, htexts]

theorem resolve_again {g g' : Given} {env : Environment} {s : Settings}
    (h : resolve g env = .ok s) (hg : ∀ x, g'.part x = some (s.part x)) (env' : Environment) :
    resolve g' env' = .ok s := by
  obtain ⟨hs, hb, -, -, -⟩ := resolve_ok h
  have hseparator : g'.separator = some s.separator :=
    Option.map_injective (fun _ _ h => Value.text.inj h) (hg .separator)
  have hfirst : g'.firstYear = some s.firstYear :=
    Option.map_injective (fun _ _ h => Value.int.inj h) (hg .firstYear)
  have hlast : g'.lastYear = some s.lastYear :=
    Option.map_injective (fun _ _ h => Value.int.inj h) (hg .lastYear)
  have honce : g'.finishOnce = some s.finishOnce := hg .finishOnce
  obtain ⟨ts, -, ht⟩ := resolveBooleans_supplied hb
  have hbooleans := resolveBooleans_again (hg .booleans) ht env'
  have hsep : resolveSeparator g' env' = .ok s.separator := by
    have hne := separator_ne_empty hs
    rw [resolveSeparator, hseparator]
    simp [hne]
  simp [resolve, hsep, hbooleans, resolveFinishOnce, resolveYear, honce, hfirst, hlast, bind,
    Except.bind, pure, Except.pure]

/-- Settings that are settled hold the canonical forms of the one list of tokens that they are made
of, and wherever they are given in full they are settled as they are. -/
theorem settled_canonically (g : Given) (env : Environment) (s : Settings)
    (h : resolve g env = .ok s) :
    (∃ ts, (∀ us, Supplied g env us ↔ us = ts) ∧
      AreCanonical ts (s.booleans.map String.toList)) ∧
    ∀ g' env', (∀ x, g'.part x = some (s.part x)) → resolve g' env' = .ok s := by
  obtain ⟨ts, hsupplied, ht⟩ := resolveBooleans_supplied (resolve_ok h).2.1
  refine ⟨⟨ts, fun us => ⟨hsupplied.unique, ?_⟩, ?_⟩, fun g' env' hg => resolve_again h hg env'⟩
  · rintro rfl
    exact hsupplied
  · rw [ht]
    exact tokens_areCanonical ts

theorem settled_canonically_sharp :
    let given : Given :=
      { booleans := some (.list [.text " yes", .text "ß", .text "YES", .text " "]) }
    let settled : Settings := { booleans := ["YES", "SS"] }
    let again : Given :=
      { separator := some "_", booleans := some (.tuple [.text "YES", .text "SS"]),
        finishOnce := some (.bool true), firstYear := some 1970, lastYear := some 2199 }
    resolve given (fun _ => none) = .ok settled ∧
      (∃ ts, Supplied given (fun _ => none) ts ∧ AreCanonical ts ["YES".toList, "SS".toList]) ∧
      resolve again (fun _ => some "none") = .ok settled := by
  intro given settled again
  have h : resolve given (fun _ => none) = .ok settled := by rfl
  obtain ⟨⟨ts, hs, hc⟩, hagain⟩ := settled_canonically given _ settled h
  refine ⟨h, ⟨ts, (hs ts).2 rfl, hc⟩, hagain again _ fun x => ?_⟩
  cases x <;> rfl

end Settings
end Scrutiny
