import Scrutiny.Proofs.Session.Parties

/-!
# Parties that do not notice each other

Deeds of both parties, mixed in whatever order, leave each party's contexts as its own deeds alone
would. With a ledger of its own a party is also answered as if it were alone. If both have one
ledger, what each has judged is still judged alike, and the ledger holds the records of both in
the order of the deeds.
-/

set_option autoImplicit false

namespace Scrutiny

namespace Joint
open Session

/-- Each side's contexts write to its own ledger, and no context is on both sides or counted
twice. -/
structure Sound (j : Joint) (home : Side → Nat) : Prop where
  grounded : j.session.Grounded
  homes : ∀ side, ∀ n ∈ j.members side, j.session.ledgerOf? n = some (home side)
  nodup : ∀ side, (j.members side).Nodup
  apart : ∀ side other, side ≠ other → ∀ n ∈ j.members side, n ∉ j.members other

def view (j : Joint) (side : Side) : List (Option Context) :=
  (j.members side).map j.session.context?

variable {j : Joint} {home : Side → Nat} {side : Side} {d : Deed}

theorem act_missing (h : (j.members side)[d.member]? = none) : j.act side d = j := by
  have ht : j.turn side d = j.session.still := by
    rw [turn, Deed.step?, h]
    rfl
  obtain ⟨s, members⟩ := j
  simp only [act, ht, still, Nat.sub_self, List.range'_zero, List.append_nil, ite_self]

theorem turn_found {n : Nat} (h : (j.members side)[d.member]? = some n) :
    j.turn side d = j.session.takeAny (d.act.step? (j.members side) n) := by
  rw [turn, Deed.step?, h]
  rfl

structure Acts (j : Joint) (side : Side) (d : Deed) (n : Nat) (c : Context) (j' : Joint) :
    Prop where
  contexts : j'.session.contexts = j.session.contexts.modify n d.act.after ++ d.act.fresh c
  members : j'.members side = j.members side ++
    List.range' j.session.contexts.length (d.act.fresh c).length
  others : ∀ other, other ≠ side → j'.members other = j.members other

theorem Sound.found (h : j.Sound home) {n : Nat} (hn : n ∈ j.members side) :
    ∃ c, j.session.context? n = some c ∧ c.ledger = home side :=
  Option.map_eq_some_iff.mp (h.homes side n hn)

theorem Sound.acts (h : j.Sound home) {n : Nat} {c : Context}
    (hn : (j.members side)[d.member]? = some n) (hc : j.session.context? n = some c) :
    Acts j side d n c (j.act side d) := by
  obtain ⟨c', hc', hl⟩ := h.found (List.mem_of_getElem? hn)
  obtain rfl := Option.some.inj (hc'.symm.trans hc)
  have hm : ∀ m ∈ j.members side, j.session.ledgerOf? m = some c'.ledger := by
    rw [hl]
    exact h.homes side
  have ht := takeAny_contexts hc hm d.act
  constructor
  case contexts => rw [act, turn_found hn, ht]
  case members =>
    simp only [act, turn_found hn, ht, if_true]
    simp
  case others =>
    intro other hne
    simp only [act, if_neg hne]

theorem Sound.lt (h : j.Sound home) {n : Nat} (hn : n ∈ j.members side) :
    n < j.session.contexts.length := by
  obtain ⟨c, hc, -⟩ := h.found hn
  exact context?_lt hc

section
variable {n : Nat} {c : Context} {j' : Joint}

theorem Acts.context_old (a : Acts j side d n c j') {m : Nat}
    (hm : m < j.session.contexts.length) :
    j'.session.context? m =
      if n = m then (j.session.context? m).map d.act.after else j.session.context? m := by
  rw [context?, a.contexts, List.getElem?_append_left (by simpa using hm), List.getElem?_modify]
  by_cases hn : n = m
  · simp [hn, context?]
  · simp [hn, context?]

theorem Acts.context_new (a : Acts j side d n c j') (i : Nat) :
    j'.session.context? (j.session.contexts.length + i) = (d.act.fresh c)[i]? := by
  rw [context?, a.contexts, List.getElem?_append_right (by simp)]
  simp

theorem Acts.mem_members (a : Acts j side d n c j') {other : Side} {m : Nat}
    (hm : m ∈ j'.members other) :
    m ∈ j.members other ∨
      other = side ∧ ∃ i < (d.act.fresh c).length, m = j.session.contexts.length + i := by
  by_cases ho : other = side
  · subst other
    rw [a.members, List.mem_append, List.mem_range'_1] at hm
    rcases hm with hm | ⟨hle, hlt⟩
    · exact .inl hm
    · exact .inr ⟨rfl, m - j.session.contexts.length, by omega, by omega⟩
  · rw [a.others other ho] at hm
    exact .inl hm

theorem after_ledger (c : Context) (a : Act) : (a.after c).ledger = c.ledger := by
  cases a with
  | change ch =>
    unfold Act.after
    dsimp only
    split <;> rfl
  | _ => rfl

theorem fresh_ledger {c e : Context} {a : Act} {i : Nat} (h : (a.fresh c)[i]? = some e) :
    e.ledger = c.ledger := by
  cases a with
  | restart =>
    obtain rfl := List.mem_singleton.mp (List.mem_of_getElem? h)
    rfl
  | _ => cases h

theorem Sound.act (h : j.Sound home) (side : Side) (d : Deed) : (j.act side d).Sound home := by
  cases hn : (j.members side)[d.member]? with
  | none => rwa [act_missing hn]
  | some n =>
    have hmem := List.mem_of_getElem? hn
    obtain ⟨c, hc, hl⟩ := h.found hmem
    have a := h.acts hn hc
    constructor
    case grounded => exact takeAny_grounded h.grounded _
    case homes =>
      intro other m hm
      rcases a.mem_members hm with hm | ⟨rfl, i, hi, rfl⟩
      · obtain ⟨e, he, hel⟩ := h.found hm
        rw [ledgerOf?, a.context_old (h.lt hm), he]
        split
        · simp [after_ledger, hel]
        · simp [hel]
      · have hi := List.getElem?_eq_getElem hi
        rw [ledgerOf?, a.context_new, hi, Option.map_some, fresh_ledger hi, hl]
    case nodup =>
      intro other
      by_cases ho : other = side
      · subst other
        rw [a.members]
        apply List.nodup_append.mpr
        refine ⟨h.nodup _, List.nodup_range', fun m hm m' hm' => ?_⟩
        have hlt := h.lt hm
        have hle := (List.mem_range'_1.mp hm').1
        omega
      · rw [a.others other ho]
        exact h.nodup other
    case apart =>
      intro one other hne m hm hm'
      rcases a.mem_members hm with hold | ⟨hone, i, hi, hnew⟩ <;>
        rcases a.mem_members hm' with hold' | ⟨hother, i', hi', hnew'⟩
      · exact h.apart one other hne m hold hold'
      · have hlt := h.lt hold
        omega
      · have hlt := h.lt hold'
        omega
      · exact hne (hone.trans hother.symm)

theorem Acts.view_own (h : j.Sound home) (a : Acts j side d n c j')
    (hn : (j.members side)[d.member]? = some n) :
    j'.view side =
      (j.view side).modify d.member (Option.map d.act.after) ++ (d.act.fresh c).map some := by
  rw [view, a.members, List.map_append]
  congr 1
  · apply List.ext_getElem?
    intro i
    rw [view, List.getElem?_modify, List.getElem?_map, List.getElem?_map]
    cases hi : (j.members side)[i]? with
    | none => rfl
    | some m =>
      have hm := h.lt (List.mem_of_getElem? hi)
      have hsame : n = m ↔ d.member = i := by
        constructor
        · rintro rfl
          have hk := (List.getElem?_eq_some_iff.mp hn).1
          exact (List.getElem?_inj hk (h.nodup side)).mp (hn.trans hi.symm)
        · rintro rfl
          exact Option.some.inj (hn.symm.trans hi)
      simp only [Option.map_some, a.context_old hm]
      by_cases he : d.member = i
      · simp [he, hsame.mpr he]
      · simp [he, mt hsame.mp he]
  · apply List.ext_getElem?
    intro i
    rw [List.getElem?_map, List.getElem?_map]
    by_cases hi : i < (d.act.fresh c).length
    · rw [List.getElem?_range' hi, Option.map_some, Nat.one_mul, a.context_new,
        List.getElem?_eq_getElem hi]
      rfl
    · simp [hi]

theorem Acts.view_other (h : j.Sound home) (a : Acts j side d n c j') (hn : n ∈ j.members side)
    {other : Side} (ho : other ≠ side) : j'.view other = j.view other := by
  rw [view, a.others other ho]
  apply List.map_congr_left
  intro m hm
  have hne : n ≠ m := by
    rintro rfl
    exact h.apart other side ho n hm hn
  rw [a.context_old (h.lt hm), if_neg hne]

end

theorem act_checkers (j : Joint) (side : Side) (d : Deed) :
    (j.act side d).session.checkers = j.session.checkers := by
  cases hn : (j.members side)[d.member]? with
  | none => rw [act_missing hn]
  | some n =>
    rw [act, turn_found hn]
    exact takeAny_checkers _ _ _ _

/-- A party has the same contexts in two sessions, and the same checkers judge. -/
structure Alike (side : Side) (j j' : Joint) : Prop where
  view : j.view side = j'.view side
  checkers : j.session.checkers = j'.session.checkers

section
variable {j' : Joint}

theorem Alike.get (hv : Alike side j j') (k : Nat) :
    ((j.members side)[k]?).map j.session.context? =
      ((j'.members side)[k]?).map j'.session.context? := by
  have hk := congrArg (fun xs : List (Option Context) => xs[k]?) hv.view
  simp only [Joint.view, List.getElem?_map] at hk
  exact hk

theorem Alike.missing (hv : Alike side j j') {k : Nat} (h : (j.members side)[k]? = none) :
    (j'.members side)[k]? = none := by
  have hk := hv.get k
  rw [h, Option.map_none] at hk
  exact Option.map_eq_none_iff.mp hk.symm

theorem Alike.found (hv : Alike side j j') (h : j.Sound home) {k n : Nat}
    (hn : (j.members side)[k]? = some n) :
    ∃ n' c, (j'.members side)[k]? = some n' ∧ j.session.context? n = some c ∧
      j'.session.context? n' = some c ∧ c.ledger = home side := by
  obtain ⟨c, hc, hl⟩ := h.found (List.mem_of_getElem? hn)
  have hk := hv.get k
  rw [hn, Option.map_some, hc] at hk
  obtain ⟨n', hn', hc'⟩ := Option.map_eq_some_iff.mp hk.symm
  exact ⟨n', c, hn', hc, hc', hl⟩

theorem Alike.act (hv : Alike side j j') (h : j.Sound home) (h' : j'.Sound home) (d : Deed) :
    Alike side (j.act side d) (j'.act side d) := by
  constructor
  case view =>
    cases hn : (j.members side)[d.member]? with
    | none =>
      rw [act_missing hn, act_missing (hv.missing hn)]
      exact hv.view
    | some n =>
      obtain ⟨n', c, hn', hc, hc', -⟩ := hv.found h hn
      rw [(h.acts hn hc).view_own h hn, (h'.acts hn' hc').view_own h' hn', hv.view]
  case checkers => rw [act_checkers, act_checkers, hv.checkers]

theorem Alike.act_other (hv : Alike side j j') (h : j.Sound home) {other : Side}
    (ho : other ≠ side) (d : Deed) : Alike side (j.act other d) j' := by
  constructor
  case view =>
    cases hn : (j.members other)[d.member]? with
    | none =>
      rw [act_missing hn]
      exact hv.view
    | some n =>
      have hmem := List.mem_of_getElem? hn
      obtain ⟨c, hc, -⟩ := h.found hmem
      rw [(h.acts hn hc).view_other h hmem ho.symm, hv.view]
  case checkers => rw [act_checkers, hv.checkers]

theorem sight_eq (h : j.Sound home) (k : Nat) :
    j.sight? side k = ((j.view side)[k]?.join).map fun c =>
      ⟨c.focus, c.finished, j.session.ledger (home side)⟩ := by
  rw [sight?, view, List.getElem?_map]
  cases hn : (j.members side)[k]? with
  | none => rfl
  | some n =>
    obtain ⟨c, hc, hl⟩ := h.found (List.mem_of_getElem? hn)
    simp [Session.sight?, hc, hl]

theorem Alike.answer (hv : Alike side j j') (h : j.Sound home) (h' : j'.Sound home) (d : Deed)
    (hb : d.act.isBlind = true ∨ j.session.ledger (home side) = j'.session.ledger (home side)) :
    j.answer side d = j'.answer side d := by
  have hturn : (j.turn side d).notes = (j'.turn side d).notes ∧
      (j.turn side d).fault = (j'.turn side d).fault := by
    cases hn : (j.members side)[d.member]? with
    | none =>
      rw [turn, turn, Deed.step?, Deed.step?, hn, hv.missing hn]
      exact ⟨rfl, rfl⟩
    | some n =>
      obtain ⟨n', c, hn', hc, hc', hl⟩ := hv.found h hn
      rw [turn_found hn, turn_found hn']
      rw [← hl] at hb
      apply takeAny_answer hc hc' (congrFun hv.checkers c) hv.view
      · rw [hl]
        exact h.homes side
      · exact hb
  have hsight : d.act = .look → j.sight? side d.member = j'.sight? side d.member := by
    intro hlook
    rw [hlook] at hb
    have hl := hb.resolve_left Bool.false_ne_true
    rw [sight_eq h, sight_eq h', hv.view, hl]
  obtain ⟨hnotes, hfault⟩ := hturn
  rw [Joint.answer, Joint.answer, hnotes, hfault]
  cases ha : d.act with
  | look => rw [hsight ha]
  | _ => rfl

end

theorem Sound.act_ledger (h : j.Sound home) (side : Side) (d : Deed) (l : Nat) :
    (j.act side d).session.ledger l =
      j.session.ledger l ++ if home side = l then (j.answer side d).records else [] := by
  have hrec : (j.answer side d).records = (j.turn side d).notes.filterMap Note.record? := rfl
  cases hn : (j.members side)[d.member]? with
  | none =>
    have hnil : (j.answer side d).records = [] := by
      rw [hrec, turn, Deed.step?, hn]
      rfl
    rw [act_missing hn, hnil, ite_self, List.append_nil]
  | some n =>
    obtain ⟨c, hc, hl⟩ := h.found (List.mem_of_getElem? hn)
    rw [hrec, Joint.act, turn_found hn, ← hl]
    apply takeAny_ledger h.grounded hc
    rw [hl]
    exact h.homes side

theorem Sound.run (h : j.Sound home) (deeds : List (Side × Deed)) : (j.run deeds).Sound home := by
  induction deeds generalizing j with
  | nil => exact h
  | cons e deeds ih => exact ih (h.act e.1 e.2)

theorem ofSide_cons_self {α : Type} (side : Side) (x : α) (xs : List (Side × α)) :
    ofSide side ((side, x) :: xs) = (side, x) :: ofSide side xs := by
  simp [ofSide]

theorem ofSide_cons_other {α : Type} {side other : Side} (h : other ≠ side) (x : α)
    (xs : List (Side × α)) : ofSide side ((other, x) :: xs) = ofSide side xs := by
  simp [ofSide, h]

theorem blind_cons (side : Side) (d : Deed) (a : Answer)
    (entries : List (Side × Deed × Answer)) :
    blind ((side, d, a) :: entries) =
      if d.act.isBlind = true then (side, d, a) :: blind entries else blind entries :=
  List.filter_cons

section
variable {j' : Joint}

theorem Alike.run (hv : Alike side j j') (h : j.Sound home) (h' : j'.Sound home)
    (deeds : List (Side × Deed)) : Alike side (j.run deeds) (j'.run (ofSide side deeds)) := by
  induction deeds generalizing j j' with
  | nil => exact hv
  | cons e deeds ih =>
    obtain ⟨one, d⟩ := e
    by_cases ho : one = side
    · subst one
      rw [ofSide_cons_self]
      exact ih (hv.act h h' d) (h.act side d) (h'.act side d)
    · rw [ofSide_cons_other ho]
      exact ih (hv.act_other h ho d) (h.act one d) h'

theorem Alike.transcript_blind (hv : Alike side j j') (h : j.Sound home) (h' : j'.Sound home)
    (deeds : List (Side × Deed)) :
    blind (ofSide side (j.transcript deeds)) = blind (j'.transcript (ofSide side deeds)) := by
  induction deeds generalizing j j' with
  | nil => rfl
  | cons e deeds ih =>
    obtain ⟨one, d⟩ := e
    by_cases ho : one = side
    · subst one
      have ih := ih (hv.act h h' d) (h.act side d) (h'.act side d)
      rw [ofSide_cons_self, Joint.transcript, Joint.transcript, ofSide_cons_self]
      rw [blind_cons, blind_cons]
      cases hb : d.act.isBlind with
      | true => rw [if_pos rfl, if_pos rfl, ih, hv.answer h h' d (.inl hb)]
      | false => exact ih
    · rw [ofSide_cons_other ho, Joint.transcript, ofSide_cons_other ho]
      exact ih (hv.act_other h ho d) (h.act one d) h'

theorem Alike.transcript_apart (hv : Alike side j j') (h : j.Sound home) (h' : j'.Sound home)
    (hl : j.session.ledger (home side) = j'.session.ledger (home side))
    (hne : ∀ other, other ≠ side → home other ≠ home side) (deeds : List (Side × Deed)) :
    ofSide side (j.transcript deeds) = j'.transcript (ofSide side deeds) ∧
      (j.run deeds).session.ledger (home side) =
        (j'.run (ofSide side deeds)).session.ledger (home side) := by
  induction deeds generalizing j j' with
  | nil => exact ⟨rfl, hl⟩
  | cons e deeds ih =>
    obtain ⟨one, d⟩ := e
    by_cases ho : one = side
    · subst one
      have ha := hv.answer h h' d (.inr hl)
      have hl' : (j.act side d).session.ledger (home side) =
          (j'.act side d).session.ledger (home side) := by
        rw [h.act_ledger, h'.act_ledger, hl, ha]
      obtain ⟨iht, ihl⟩ := ih (hv.act h h' d) (h.act side d) (h'.act side d) hl'
      rw [ofSide_cons_self, Joint.transcript, Joint.transcript, ofSide_cons_self, iht, ha]
      exact ⟨rfl, ihl⟩
    · have hl' : (j.act one d).session.ledger (home side) = j'.session.ledger (home side) := by
        rw [h.act_ledger, if_neg (hne one ho), List.append_nil, hl]
      rw [ofSide_cons_other ho, Joint.transcript, ofSide_cons_other ho]
      exact ih (hv.act_other h ho d) (h.act one d) h' hl'

theorem records_of_unblind (j : Joint) (side : Side) {d : Deed} (hb : d.act.isBlind = false) :
    (j.answer side d).records = [] := by
  have hrec : (j.answer side d).records = (j.turn side d).notes.filterMap Note.record? := rfl
  rw [hrec]
  cases hn : (j.members side)[d.member]? with
  | none =>
    rw [turn, Deed.step?, hn]
    rfl
  | some n =>
    rw [turn_found hn]
    cases ha : d.act with
    | finish =>
      simp only [Act.step?, takeAny]
      cases hc : j.session.context? n with
      | none =>
        rw [step_missing rfl hc]
        rfl
      | some c => rw [step_finish hc, finish_records]
    | look => rfl
    | _ => simp [ha, Act.isBlind] at hb

theorem Alike.records (hv : Alike side j j') (h : j.Sound home) (h' : j'.Sound home) (d : Deed) :
    (j.answer side d).records = (j'.answer side d).records := by
  cases hb : d.act.isBlind with
  | true => rw [hv.answer h h' d (.inl hb)]
  | false => rw [records_of_unblind j side hb, records_of_unblind j' side hb]

theorem recorded_cons (j : Joint) (side : Side) (d : Deed) (deeds : List (Side × Deed)) :
    j.recorded ((side, d) :: deeds) =
      (j.answer side d).records.map (fun r => (side, r)) ++ (j.act side d).recorded deeds := rfl

theorem ofSide_append {α : Type} (side : Side) (xs ys : List (Side × α)) :
    ofSide side (xs ++ ys) = ofSide side xs ++ ofSide side ys := List.filter_append ..

theorem Alike.recorded (hv : Alike side j j') (h : j.Sound home) (h' : j'.Sound home)
    (deeds : List (Side × Deed)) :
    ofSide side (j.recorded deeds) = j'.recorded (ofSide side deeds) := by
  induction deeds generalizing j j' with
  | nil => rfl
  | cons e deeds ih =>
    obtain ⟨one, d⟩ := e
    by_cases ho : one = side
    · subst one
      rw [ofSide_cons_self, recorded_cons, recorded_cons, ofSide_append,
        ih (hv.act h h' d) (h.act side d) (h'.act side d), hv.records h h' d]
      congr 1
      simp [ofSide]
    · rw [ofSide_cons_other ho, recorded_cons, ofSide_append,
        ih (hv.act_other h ho d) (h.act one d) h']
      simp [ofSide, ho]

end

theorem Sound.run_ledger (h : j.Sound home) {l : Nat} (hl : ∀ side, home side = l)
    (deeds : List (Side × Deed)) :
    (j.run deeds).session.ledger l = j.session.ledger l ++ (j.recorded deeds).map Prod.snd := by
  induction deeds generalizing j with
  | nil => simp [Joint.run, Joint.recorded, transcript]
  | cons e deeds ih =>
    obtain ⟨one, d⟩ := e
    have ih := ih (h.act one d)
    rw [h.act_ledger, if_pos (hl one)] at ih
    rw [recorded_cons, List.map_append, List.map_map, ← List.append_assoc]
    have hid : Prod.snd ∘ (fun r : ErrorRecord => (one, r)) = id := rfl
    rw [hid, List.map_id]
    exact ih

/-- What a party sees of the other. -/
structure Isolated (j : Joint) (home : Side → Nat) (deeds : List (Side × Deed)) (side : Side) :
    Prop where
  /-- Its contexts have the focus and the mark that they would have without the other. -/
  contexts : ∀ k,
    ((j.run deeds).sight? side k).map (fun a => (a.focus, a.finished)) =
      ((j.run (ofSide side deeds)).sight? side k).map fun a => (a.focus, a.finished)
  /-- All that it has judged is judged alike. -/
  judged : blind (ofSide side (j.transcript deeds)) = blind (j.transcript (ofSide side deeds))
  apart : home .left ≠ home .right →
    ofSide side (j.transcript deeds) = j.transcript (ofSide side deeds) ∧
      ∀ k, (j.run deeds).sight? side k = (j.run (ofSide side deeds)).sight? side k
  /-- One ledger gets all records in the order of the deeds, and of each side those that it would
  get from that side alone. -/
  shared : ∀ l, home .left = l → home .right = l →
    (j.run deeds).session.ledger l = j.session.ledger l ++ (j.recorded deeds).map Prod.snd ∧
      (j.run (ofSide side deeds)).session.ledger l =
        j.session.ledger l ++ (ofSide side (j.recorded deeds)).map Prod.snd

theorem Sound.isolated (h : j.Sound home) (deeds : List (Side × Deed)) (side : Side) :
    Isolated j home deeds side := by
  have hv : Alike side j j := ⟨rfl, rfl⟩
  have hrun := hv.run h h deeds
  have hs := h.run deeds
  have hown := h.run (ofSide side deeds)
  constructor
  case contexts =>
    intro k
    rw [sight_eq hs, sight_eq hown, hrun.view, Option.map_map, Option.map_map]
    rfl
  case judged => exact hv.transcript_blind h h deeds
  case apart =>
    intro hne
    have hne : ∀ other, other ≠ side → home other ≠ home side := by
      intro other ho
      cases other <;> cases side
      · exact absurd rfl ho
      · exact hne
      · exact hne.symm
      · exact absurd rfl ho
    obtain ⟨ht, hl⟩ := hv.transcript_apart h h rfl hne deeds
    refine ⟨ht, fun k => ?_⟩
    rw [sight_eq hs, sight_eq hown, hrun.view, hl]
  case shared =>
    intro l hleft hright
    have hl : ∀ side, home side = l := by
      intro side
      cases side
      · exact hleft
      · exact hright
    rw [hv.recorded h h deeds]
    exact ⟨h.run_ledger hl deeds, h.run_ledger hl (ofSide side deeds)⟩

end Joint

namespace Session

/-- In every session that is reached, two parties do not notice each other if they write to
different ledgers, however their deeds are mixed. If they write to one, they do so in turn. -/
theorem parties_isolated (libs : Libraries) (ledgers : List (List ErrorRecord))
    (before : List Step) (members : Side → List Nat) (home : Side → Nat)
    (homes : ∀ side, ∀ n ∈ members side,
      (run (initial libs ledgers) before).ledgerOf? n = some (home side))
    (once : (members .left ++ members .right).Nodup) (deeds : List (Side × Deed)) (side : Side) :
    Joint.Isolated ⟨run (initial libs ledgers) before, members⟩ home deeds side := by
  obtain ⟨hleft, hright, hne⟩ := List.nodup_append.mp once
  apply Joint.Sound.isolated
  constructor
  case grounded => exact run_grounded (grounded_initial libs ledgers) before
  case homes => exact homes
  case nodup =>
    intro side
    cases side
    · exact hleft
    · exact hright
  case apart =>
    intro one other ho n hn hn'
    cases one <;> cases other
    · exact ho rfl
    · exact hne n hn n hn' rfl
    · exact hne n hn' n hn rfl
    · exact ho rfl

theorem parties_isolated_pairs :
    let missing : Act := .judge (.rule (.required .present))
    let members : Side → List Nat
      | .left => [0]
      | .right => [1]
    let deeds : List (Side × Deed) :=
      [(.left, ⟨0, missing⟩), (.right, ⟨0, .restart⟩), (.right, ⟨1, missing⟩),
        (.left, ⟨0, .finish⟩), (.right, ⟨0, .look⟩)]
    let fresh : Session := initial .lenient []
    let apart : Joint :=
      ⟨run fresh [.start none {} .own none none, .start none {} .own none none], members⟩
    let together : Joint := ⟨run fresh [.start none {} .own none none, .restart 0], members⟩
    ofSide .left (apart.transcript deeds) = apart.transcript (ofSide .left deeds) ∧
      (together.run deeds).session.ledger 0 = (together.recorded deeds).map Prod.snd := by
  intro missing members deeds fresh apart together
  have once : (members .left ++ members .right).Nodup := by decide
  constructor
  · let home : Side → Nat
      | .left => 0
      | .right => 1
    have homes : ∀ side, ∀ n ∈ members side, apart.session.ledgerOf? n = some (home side) := by
      intro side n hn
      cases side <;> obtain rfl := List.mem_singleton.mp hn <;> rfl
    have isolated := parties_isolated .lenient [] _ members home homes once deeds .left
    exact (isolated.apart (by decide)).1
  · have homes : ∀ side, ∀ n ∈ members side, together.session.ledgerOf? n = some 0 := by
      intro side n hn
      cases side <;> obtain rfl := List.mem_singleton.mp hn <;> rfl
    have isolated := parties_isolated .lenient [] _ members (fun _ => 0) homes once deeds .left
    exact (isolated.shared 0 rfl rfl).1

end Session
end Scrutiny
